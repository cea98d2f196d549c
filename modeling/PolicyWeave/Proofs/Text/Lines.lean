import PolicyWeave.Text.Lines

/-!
# Lines of a text

Cutting a text at its line ends undoes writing lines one after another, as
long as no line holds a line end itself.  The same is true of every other
separator.

* `splitOn_append`: a text without separators belongs to the first piece of
  what follows.
* `unlines` writes lines, and `splitOn_unlines` finds them again.
-/

namespace PolicyWeave.Text

variable {sep : Char} {cs line : List Char}

/-! ## Pieces -/

/-- Even an empty text has a piece. -/
theorem splitOn_ne_nil (sep : Char) (cs : List Char) : splitOn sep cs ≠ [] := by
  cases cs with
  | nil => simp [splitOn]
  | cons c cs => rw [splitOn]; repeat' split <;> simp

theorem splitOn_cons_of_ne {c : Char} (h : c ≠ sep) (cs : List Char) :
    splitOn sep (c :: cs) = (splitOn sep cs).modifyHead (c :: ·) := by
  rw [splitOn, if_neg (by simpa using h)]
  cases hcs : splitOn sep cs with
  | nil => exact absurd hcs (splitOn_ne_nil sep cs)
  | cons piece rest => rfl

/-- A text without separators goes in front of the first piece. -/
theorem splitOn_append (h : sep ∉ cs) (ds : List Char) :
    splitOn sep (cs ++ ds) = (splitOn sep ds).modifyHead (cs ++ ·) := by
  induction cs with
  | nil => cases h : splitOn sep ds <;> simp [h]
  | cons c cs ih =>
    have hc : c ≠ sep := fun heq => h (heq ▸ List.mem_cons_self)
    have hcs : sep ∉ cs := fun hmem => h (List.mem_cons_of_mem c hmem)
    rw [List.cons_append, splitOn_cons_of_ne hc, ih hcs]
    cases splitOn sep ds <;> rfl

theorem splitOn_eq_singleton (h : sep ∉ cs) : splitOn sep cs = [cs] := by
  simpa [splitOn] using splitOn_append h []

/-- A text up to its first separator is the first piece. -/
theorem splitOn_append_cons (h : sep ∉ line) (cs : List Char) :
    splitOn sep (line ++ sep :: cs) = line :: splitOn sep cs := by
  simp [splitOn_append h, splitOn]

theorem not_mem_of_mem_splitOn {piece : List Char}
    (h : piece ∈ splitOn sep cs) : sep ∉ piece := by
  induction cs generalizing piece with
  | nil => simp_all [splitOn]
  | cons c cs ih =>
    by_cases hc : c = sep
    · subst hc
      rcases List.mem_cons.mp (by simpa [splitOn] using h) with rfl | h
      · exact List.not_mem_nil
      · exact ih h
    · rw [splitOn_cons_of_ne hc] at h
      cases hcs : splitOn sep cs with
      | nil => simp [hcs] at h
      | cons first rest =>
        rw [hcs] at h ih
        rcases List.mem_cons.mp h with rfl | h
        · simpa [Ne.symm hc] using ih List.mem_cons_self
        · exact ih (List.mem_cons_of_mem first h)

/-! ## Lines -/

theorem trimReturn_subset (line : List Char) : trimReturn line ⊆ line := by
  intro c hc
  rw [trimReturn] at hc
  split at hc
  · rename_i rest hreverse
    rw [← List.mem_reverse, hreverse]
    exact List.mem_cons_of_mem '\r' (List.mem_reverse.mp hc)
  · exact hc

/-- A line is a piece, or what is left of one. -/
theorem exists_of_mem_endLines {pieces : List (List Char)}
    (h : line ∈ endLines pieces) : ∃ piece ∈ pieces, line ⊆ piece := by
  induction pieces using endLines.induct with
  | case1 => cases h
  | case2 last hlast => simp [endLines, hlast] at h
  | case3 last hlast =>
    simp only [endLines, hlast] at h
    exact ⟨line, h, List.Subset.refl line⟩
  | case4 piece rest hrest ih =>
    rw [endLines] at h
    · rcases List.mem_cons.mp h with rfl | h
      · exact ⟨piece, List.mem_cons_self, trimReturn_subset piece⟩
      · obtain ⟨piece', hpiece', hsub⟩ := ih h
        exact ⟨piece', List.mem_cons_of_mem piece hpiece', hsub⟩
    · exact hrest

/-- No line of a text holds a line end. -/
theorem not_mem_of_mem_lines (h : line ∈ lines cs) : '\n' ∉ line := by
  obtain ⟨piece, hpiece, hsub⟩ := exists_of_mem_endLines h
  exact fun hmem => not_mem_of_mem_splitOn hpiece (hsub hmem)

/-- Lines as a text, each with its end. -/
def unlines (ls : List (List Char)) : List Char :=
  ls.flatMap fun line => line ++ ['\n']

@[simp] theorem unlines_nil : unlines [] = [] := rfl

@[simp] theorem unlines_append (ls ms : List (List Char)) :
    unlines (ls ++ ms) = unlines ls ++ unlines ms :=
  List.flatMap_append

/-- The pieces of a text as lines: the last one is given an end, too. -/
theorem unlines_splitOn (cs : List Char) :
    unlines (splitOn '\n' cs) = cs ++ ['\n'] := by
  induction cs with
  | nil => rfl
  | cons c cs ih =>
    by_cases hc : c = '\n'
    · subst hc
      simpa [splitOn, unlines] using ih
    · rw [splitOn_cons_of_ne hc]
      cases hcs : splitOn '\n' cs with
      | nil => exact absurd hcs (splitOn_ne_nil _ cs)
      | cons piece rest =>
        rw [hcs] at ih
        simpa [unlines] using ih

/-- The lines that a text starts with are its first pieces. -/
theorem splitOn_unlines {ls : List (List Char)} (h : ∀ line ∈ ls, '\n' ∉ line)
    (rest : List Char) :
    splitOn '\n' (unlines ls ++ rest) = ls ++ splitOn '\n' rest := by
  induction ls with
  | nil => rfl
  | cons line ls ih =>
    obtain ⟨hline, hls⟩ := List.forall_mem_cons.mp h
    have htext : unlines (line :: ls) ++ rest
        = line ++ '\n' :: (unlines ls ++ rest) := by
      simp [unlines]
    rw [htext, splitOn_append_cons hline, ih hls, List.cons_append]

end PolicyWeave.Text
