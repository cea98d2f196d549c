import PolicyWeave.Config.Basic
import PolicyWeave.Proofs.Text.Identifier
import PolicyWeave.Template.Expression

/-!
# Checked paths

What the check of a path setting guarantees to the writer of generated
code: the path holds name characters and colons only, and it ends with a
name, so there are no separators to trim.

Both facts are read off `pathSegments`.  Its pieces hold all characters
but the separators, and its last piece is the end of the path.
-/

namespace PolicyWeave.Config

/-! ## Pieces of a path -/

theorem pathSegments_ne_nil (cs : List Char) : pathSegments cs ≠ [] := by
  fun_cases pathSegments cs <;> simp_all

/-- A character of a path is a colon or in one of its pieces. -/
theorem eq_colon_or_mem_pathSegments {cs : List Char} {c : Char}
    (h : c ∈ cs) : c = ':' ∨ ∃ piece ∈ pathSegments cs, c ∈ piece := by
  fun_induction pathSegments cs with
  | case1 rest ih =>
    rcases List.mem_cons.mp h with rfl | h
    · exact Or.inl rfl
    · rcases List.mem_cons.mp h with rfl | h
      · exact Or.inl rfl
      · obtain hc | ⟨piece, hpiece, hc⟩ := ih h
        · exact Or.inl hc
        · exact Or.inr ⟨piece, List.mem_cons_of_mem _ hpiece, hc⟩
  | case2 => cases h
  | case3 d rest hsep hpieces => exact absurd hpieces (pathSegments_ne_nil _)
  | case4 d rest hsep piece pieces hpieces ih =>
    rw [hpieces] at ih
    rcases List.mem_cons.mp h with rfl | h
    · exact Or.inr ⟨c :: piece, by simp, by simp⟩
    · obtain hc | ⟨other, hother, hc⟩ := ih h
      · exact Or.inl hc
      · rcases List.mem_cons.mp hother with rfl | hother
        · exact Or.inr ⟨d :: other, by simp, by simp [hc]⟩
        · exact Or.inr ⟨other, by simp [hother], hc⟩

/-- A path of one piece is that piece. -/
theorem eq_of_pathSegments_eq_singleton {cs piece : List Char}
    (h : pathSegments cs = [piece]) : piece = cs := by
  fun_induction pathSegments cs generalizing piece with
  | case1 rest ih =>
    simp only [List.cons.injEq] at h
    exact absurd h.2 (pathSegments_ne_nil rest)
  | case2 => simpa using h.symm
  | case3 d rest hsep hpieces => exact absurd hpieces (pathSegments_ne_nil _)
  | case4 d rest hsep first pieces hpieces ih =>
    simp only [List.cons.injEq] at h
    obtain ⟨rfl, rfl⟩ := h
    rw [ih hpieces]

/-- The last piece is the end of the path. -/
theorem exists_getLast?_pathSegments (cs : List Char) :
    ∃ piece, (pathSegments cs).getLast? = some piece ∧ piece <:+ cs := by
  fun_induction pathSegments cs with
  | case1 rest ih =>
    obtain ⟨piece, hlast, hsuffix⟩ := ih
    refine ⟨piece, ?_, hsuffix.trans ⟨[':', ':'], rfl⟩⟩
    rw [List.getLast?_cons, hlast]
    rfl
  | case2 => exact ⟨[], rfl, List.suffix_rfl⟩
  | case3 d rest hsep hpieces => exact absurd hpieces (pathSegments_ne_nil _)
  | case4 d rest hsep first pieces hpieces ih =>
    rw [hpieces] at ih
    obtain ⟨piece, hlast, hsuffix⟩ := ih
    cases pieces with
    | nil =>
      have hwhole : first = rest := eq_of_pathSegments_eq_singleton hpieces
      exact ⟨d :: first, rfl, hwhole ▸ List.suffix_rfl⟩
    | cons second pieces =>
      refine ⟨piece, ?_, hsuffix.trans (List.suffix_cons d rest)⟩
      simpa using hlast

/-! ## Paths -/

/-- A path is made of identifiers, with or without a separator in
front. -/
theorem exists_body_of_isPath {s : String} (h : isPath s = true) :
    ∃ body, (s.toList = body ∨ s.toList = ':' :: ':' :: body) ∧
      ∀ piece ∈ pathSegments body, Text.isIdentifierChars piece = true := by
  simp only [isPath, Bool.and_eq_true, List.all_eq_true] at h
  obtain ⟨-, hpieces⟩ := h
  split at hpieces
  · rename_i rest hs
    exact ⟨rest, Or.inr hs, hpieces⟩
  · exact ⟨s.toList, Or.inl rfl, hpieces⟩

/-- A path holds name characters and colons only. -/
theorem eq_colon_or_isIdentRest_of_isPath {s : String}
    (h : isPath s = true) {c : Char} (hc : c ∈ s.toList) :
    c = ':' ∨ Text.isIdentRest c = true := by
  obtain ⟨body, hs, hpieces⟩ := exists_body_of_isPath h
  have hbody : c = ':' ∨ c ∈ body := by
    rcases hs with hs | hs
    · exact Or.inr (hs ▸ hc)
    · rw [hs] at hc
      simp only [List.mem_cons] at hc
      rcases hc with hc | hc | hc
      · exact Or.inl hc
      · exact Or.inl hc
      · exact Or.inr hc
  rcases hbody with hc | hc
  · exact Or.inl hc
  · obtain hc | ⟨piece, hpiece, hc⟩ := eq_colon_or_mem_pathSegments hc
    · exact Or.inl hc
    · exact Or.inr (Text.isIdentRest_of_mem (hpieces piece hpiece) hc)

/-- A path ends with a name. -/
theorem exists_getLast?_of_isPath {s : String} (h : isPath s = true) :
    ∃ c, s.toList.getLast? = some c ∧ Text.isIdentRest c = true := by
  obtain ⟨body, hs, hpieces⟩ := exists_body_of_isPath h
  obtain ⟨piece, hlast, hsuffix⟩ := exists_getLast?_pathSegments body
  obtain ⟨c, hc, hrest⟩ := Text.exists_getLast?_of_isIdentifierChars
    (hpieces piece (List.mem_of_getLast? hlast))
  have hbody : body <:+ s.toList := by
    rcases hs with hs | hs
    · exact hs ▸ List.suffix_rfl
    · rw [hs]
      exact ⟨[':', ':'], rfl⟩
  obtain ⟨front, hfront⟩ := hsuffix.trans hbody
  refine ⟨c, ?_, hrest⟩
  rw [← hfront, List.getLast?_append, hc]
  rfl

/-- A path has no separators to trim. -/
theorem trimSeparators_of_isPath {s : String} (h : isPath s = true) :
    trimSeparators s.toList = s.toList := by
  obtain ⟨c, hlast, hrest⟩ := exists_getLast?_of_isPath h
  have hne : c ≠ ':' := by
    intro heq
    subst heq
    revert hrest
    decide
  rw [← List.head?_reverse] at hlast
  unfold trimSeparators
  cases hreverse : s.toList.reverse with
  | nil => simp [hreverse] at hlast
  | cons d ds =>
    obtain rfl : d = c := by simpa [hreverse] using hlast
    have hgo : trimSeparators.go (d :: ds) = d :: ds := by
      rw [trimSeparators.go.eq_def]
      split
      · rename_i hds
        simp only [List.cons.injEq] at hds
        exact absurd hds.1 hne
      · rfl
    rw [hgo, ← hreverse, List.reverse_reverse]

/-- What is neither a colon nor part of a name is not in a path. -/
theorem not_mem_of_isPath {s : String} (h : isPath s = true) {c : Char}
    (hcolon : c ≠ ':') (hrest : Text.isIdentRest c = false) :
    c ∉ s.toList := by
  intro hc
  rcases eq_colon_or_isIdentRest_of_isPath h hc with hc | hc
  · exact hcolon hc
  · rw [hrest] at hc
    cases hc

/-- A path has no opening parenthesis. -/
theorem ne_paren_of_mem_of_isPath {s : String} (h : isPath s = true) :
    ∀ c ∈ s.toList, c ≠ '(' := by
  rintro c hc rfl
  exact not_mem_of_isPath h (by decide) (by decide) hc

/-- A path stands on one line. -/
theorem newline_not_mem_of_isPath {s : String} (h : isPath s = true) :
    '\n' ∉ s.toList :=
  not_mem_of_isPath h (by decide) (by decide)

section

variable {c : Config} (h : c.fault? = none)

include h

/-- Settings without a fault have a path for the runtime. -/
theorem isPath_of_fault?_eq_none : isPath c.runtimePath = true := by
  by_cases hpath : isPath c.runtimePath = true
  · exact hpath
  · simp [fault?, pathFault?, hpath] at h

/-- Settings without a fault have a path for the attribute of
implementations. -/
theorem isPath_asyncTraitPath_of_fault?_eq_none :
    isPath c.asyncTraitPath = true := by
  have hruntime := isPath_of_fault?_eq_none h
  by_cases hpath : isPath c.asyncTraitPath = true
  · exact hpath
  · simp [fault?, pathFault?, hruntime, hpath] at h

end

end PolicyWeave.Config
