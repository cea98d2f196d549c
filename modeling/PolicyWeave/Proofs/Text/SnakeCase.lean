import Mathlib
import PolicyWeave.Text.Identifier

/-!
# Snake case

Snake case has no capitals, and leaves a name without capitals as it is, so
it changes nothing the second time (`snakeCase_snakeCase`).  A constant name
is a snake case in capitals, which loses nothing more: two names have one
constant name exactly if they have one snake case (`upperSnakeCase_eq_iff`).

Both make identifiers of identifiers (`isIdentifier_snakeCase`,
`isIdentifier_upperSnakeCase`).
-/

namespace PolicyWeave.Text

/-- Snake case has lower-case characters, and underscores between them. -/
theorem eq_or_mem_of_mem_snakeCaseAfter {prev : Option Char}
    {cs : List Char} {c : Char} (h : c ∈ snakeCaseAfter prev cs) :
    c = '_' ∨ c ∈ cs.map Char.toLower := by
  fun_induction snakeCaseAfter prev cs with
  | case1 => cases h
  | case2 prev d cs _ ih =>
    rcases List.mem_append.mp h with h | h
    · have hc : c = '_' ∨ c = d.toLower := by
        split at h
        · simpa using h
        · exact .inr (by simpa using h)
      exact hc.imp_right fun hc => by simp [hc]
    · exact (ih h).imp_right (List.mem_cons_of_mem _)
  | case3 prev d cs hd ih =>
    rcases List.mem_cons.mp h with rfl | h
    · exact .inr (by simp [Char.toLower_eq_of_not_isUpper hd])
    · exact (ih h).imp_right (List.mem_cons_of_mem _)

theorem isUpper_of_mem_snakeCaseAfter {prev : Option Char} {cs : List Char}
    {c : Char} (h : c ∈ snakeCaseAfter prev cs) : c.isUpper = false := by
  rcases eq_or_mem_of_mem_snakeCaseAfter h with rfl | h
  · rfl
  · obtain ⟨d, -, rfl⟩ := List.mem_map.mp h
    exact Char.isUpper_toLower_eq_false d

/-- A character that is no capital is known from its capital. -/
theorem eq_of_toUpper_eq {c d : Char} (hc : c.isUpper = false)
    (hd : d.isUpper = false) (h : c.toUpper = d.toUpper) : c = d := by
  calc c = c.toLower := (Char.toLower_eq_of_not_isUpper (by simp [hc])).symm
    _ = c.toUpper.toLower := (Char.toLower_toUpper_eq_toLower c).symm
    _ = d.toUpper.toLower := by rw [h]
    _ = d.toLower := Char.toLower_toUpper_eq_toLower d
    _ = d := Char.toLower_eq_of_not_isUpper (by simp [hd])

/-- Characters that are no capitals are known from their capitals. -/
theorem eq_of_map_toUpper_eq {cs ds : List Char}
    (hcs : ∀ c ∈ cs, c.isUpper = false) (hds : ∀ d ∈ ds, d.isUpper = false)
    (h : cs.map Char.toUpper = ds.map Char.toUpper) : cs = ds := by
  induction cs generalizing ds with
  | nil => simpa [eq_comm] using h
  | cons c cs ih =>
    cases ds with
    | nil => simp at h
    | cons d ds =>
      obtain ⟨hc, hcs⟩ := List.forall_mem_cons.mp hcs
      obtain ⟨hd, hds⟩ := List.forall_mem_cons.mp hds
      obtain ⟨hhead, htail⟩ := List.cons.inj h
      rw [eq_of_toUpper_eq hc hd hhead, ih hcs hds htail]

/-- Two names have one constant name exactly if they have one snake case. -/
theorem upperSnakeCase_eq_iff {s t : String} :
    upperSnakeCase s = upperSnakeCase t ↔ snakeCase s = snakeCase t := by
  simp only [upperSnakeCase, snakeCase, String.ofList_inj]
  constructor
  · exact eq_of_map_toUpper_eq (fun _ => isUpper_of_mem_snakeCaseAfter)
      fun _ => isUpper_of_mem_snakeCaseAfter
  · exact congrArg (List.map Char.toUpper)

theorem snakeCaseAfter_eq_self {prev : Option Char} {cs : List Char}
    (h : ∀ c ∈ cs, c.isUpper = false) : snakeCaseAfter prev cs = cs := by
  induction cs generalizing prev with
  | nil => rfl
  | cons c cs ih =>
    obtain ⟨hc, hcs⟩ := List.forall_mem_cons.mp h
    simp [snakeCaseAfter, hc, ih hcs]

/-- A name without capitals is its own snake case. -/
theorem snakeCase_eq_self {s : String}
    (h : ∀ c ∈ s.toList, c.isUpper = false) : snakeCase s = s := by
  rw [snakeCase, snakeCaseAfter_eq_self h, String.ofList_toList]

theorem isUpper_of_mem_snakeCase {s : String} {c : Char}
    (h : c ∈ (snakeCase s).toList) : c.isUpper = false := by
  rw [snakeCase, String.toList_ofList] at h
  exact isUpper_of_mem_snakeCaseAfter h

/-- Snake case changes nothing the second time. -/
theorem snakeCase_snakeCase (s : String) :
    snakeCase (snakeCase s) = snakeCase s :=
  snakeCase_eq_self fun _ => isUpper_of_mem_snakeCase

/-! ## Identifiers -/

/-- Whether a character changes to a letter, if it changes at all. -/
def KeepsIdentifiers (f : Char → Char) : Prop :=
  ∀ c, f c = c ∨ (f c).isAlpha = true

theorem keepsIdentifiers_toLower : KeepsIdentifiers Char.toLower := by
  intro c
  by_cases hc : c.isUpper = true
  · exact .inr (by simp [Char.isAlpha, hc])
  · exact .inl (Char.toLower_eq_of_not_isUpper hc)

theorem keepsIdentifiers_toUpper : KeepsIdentifiers Char.toUpper := by
  intro c
  by_cases hc : c.isLower = true
  · exact .inr (by simp [Char.isAlpha, hc])
  · exact .inl (Char.toUpper_eq_of_not_isLower hc)

theorem KeepsIdentifiers.isIdentStart {f : Char → Char}
    (hf : KeepsIdentifiers f) {c : Char} (h : isIdentStart c = true) :
    Text.isIdentStart (f c) = true := by
  rcases hf c with hsame | hletter
  · rwa [hsame]
  · simp [Text.isIdentStart, hletter]

theorem KeepsIdentifiers.isIdentRest {f : Char → Char}
    (hf : KeepsIdentifiers f) {c : Char} (h : isIdentRest c = true) :
    Text.isIdentRest (f c) = true := by
  rcases hf c with hsame | hletter
  · rwa [hsame]
  · simp [Text.isIdentRest, Char.isAlphanum, hletter]

theorem isIdentRest_of_mem_snakeCaseAfter {prev : Option Char}
    {cs : List Char} (hcs : ∀ d ∈ cs, isIdentRest d = true) {c : Char}
    (h : c ∈ snakeCaseAfter prev cs) : isIdentRest c = true := by
  rcases eq_or_mem_of_mem_snakeCaseAfter h with rfl | h
  · rfl
  · obtain ⟨d, hd, rfl⟩ := List.mem_map.mp h
    exact keepsIdentifiers_toLower.isIdentRest (hcs d hd)

/-- No underscore comes in front, so the first character may still start an
identifier. -/
theorem isIdentifierChars_snakeCaseAfter {cs : List Char}
    (h : isIdentifierChars cs = true) :
    isIdentifierChars (snakeCaseAfter none cs) = true := by
  cases cs with
  | nil => cases h
  | cons c cs =>
    simp only [isIdentifierChars, Bool.and_eq_true, List.all_eq_true] at h
    obtain ⟨hstart, hrest⟩ := h
    have hafter : ∀ d ∈ snakeCaseAfter (some c) cs, isIdentRest d = true :=
      fun d hd => isIdentRest_of_mem_snakeCaseAfter hrest hd
    by_cases hc : c.isUpper = true
    · simpa [snakeCaseAfter, hc, startsWord, isIdentifierChars,
        keepsIdentifiers_toLower.isIdentStart hstart] using hafter
    · simpa [snakeCaseAfter, hc, isIdentifierChars, hstart] using hafter

theorem isIdentifier_snakeCase {s : String} (h : isIdentifier s = true) :
    isIdentifier (snakeCase s) = true := by
  rw [isIdentifier, snakeCase, String.toList_ofList]
  exact isIdentifierChars_snakeCaseAfter h

theorem isIdentifierChars_map {f : Char → Char} (hf : KeepsIdentifiers f)
    {cs : List Char} (h : isIdentifierChars cs = true) :
    isIdentifierChars (cs.map f) = true := by
  cases cs with
  | nil => cases h
  | cons c cs =>
    simp only [isIdentifierChars, Bool.and_eq_true, List.all_eq_true] at h
    obtain ⟨hstart, hrest⟩ := h
    simp only [List.map_cons, isIdentifierChars, List.all_map,
      Bool.and_eq_true, List.all_eq_true]
    exact ⟨hf.isIdentStart hstart, fun d hd => hf.isIdentRest (hrest d hd)⟩

theorem isIdentifier_upperSnakeCase {s : String}
    (h : isIdentifier s = true) : isIdentifier (upperSnakeCase s) = true := by
  rw [isIdentifier, upperSnakeCase, String.toList_ofList]
  exact isIdentifierChars_map keepsIdentifiers_toUpper
    (isIdentifierChars_snakeCaseAfter h)

end PolicyWeave.Text
