import PolicyWeave.Text.Identifier

/-!
# Characters of identifiers

Every character of an identifier may continue one, so an identifier holds
none of the characters that separate names: no point, no colon and no
bracket.
-/

namespace PolicyWeave.Text

/-- A character that may start a name may continue one. -/
theorem isIdentRest_of_isIdentStart {c : Char}
    (h : isIdentStart c = true) : isIdentRest c = true := by
  simp only [isIdentStart, isIdentRest, Char.isAlphanum,
    Bool.or_eq_true] at h ⊢
  exact h.imp_left Or.inl

/-- The characters of an identifier may continue a name. -/
theorem isIdentRest_of_mem {cs : List Char}
    (h : isIdentifierChars cs = true) {c : Char} (hc : c ∈ cs) :
    isIdentRest c = true := by
  cases cs with
  | nil => cases hc
  | cons d ds =>
    simp only [isIdentifierChars, Bool.and_eq_true, List.all_eq_true] at h
    rcases List.mem_cons.mp hc with rfl | hc
    · exact isIdentRest_of_isIdentStart h.1
    · exact h.2 c hc

/-- An identifier stands on one line. -/
theorem newline_not_mem {s : String} (h : isIdentifier s = true) :
    '\n' ∉ s.toList :=
  fun hmem => absurd (isIdentRest_of_mem h hmem) (by decide)

/-- An identifier has a last character, which may continue a name. -/
theorem exists_getLast?_of_isIdentifierChars {cs : List Char}
    (h : isIdentifierChars cs = true) :
    ∃ c, cs.getLast? = some c ∧ isIdentRest c = true := by
  cases hlast : cs.getLast? with
  | none =>
    rw [List.getLast?_eq_none_iff] at hlast
    subst hlast
    cases h
  | some c =>
    exact ⟨c, rfl, isIdentRest_of_mem h (List.mem_of_getLast? hlast)⟩

/-- An identifier may go on. -/
theorem isIdentifier_append {s t : String} (hs : isIdentifier s = true)
    (ht : ∀ c ∈ t.toList, isIdentRest c = true) :
    isIdentifier (s ++ t) = true := by
  simp only [isIdentifier, String.toList_append] at hs ⊢
  generalize s.toList = cs at hs ⊢
  cases cs with
  | nil => cases hs
  | cons c cs =>
    simp only [isIdentifierChars, List.cons_append, List.all_append,
      Bool.and_eq_true, List.all_eq_true] at hs ⊢
    exact ⟨hs.1, hs.2, ht⟩

end PolicyWeave.Text
