import PolicyWeave.Key.Render
import PolicyWeave.Proofs.Digest.Base64
import PolicyWeave.Proofs.Json.Tree
import PolicyWeave.Proofs.Number.Numerals

/-!
# Values that their text tells apart

A floating-point number shares its text with other values: `NaN` is
written as `null` is.  A value without floating-point numbers is the only
such value with its text.

* `Json.Exact` are the values without floating-point numbers.
* `Json.tree_inj` and `Json.render_inj`: their trees and their texts are
  different.
* `KeyFunction.base64Json_inj` says the same of base64 keys.
-/

namespace PolicyWeave

open Number

/-! ## Words -/

namespace Json.Word

/-- An integer is written with digits and a sign. -/
theorem digit_or_minus_of_mem_ofInt {n : Int} :
    ∀ c ∈ (ofInt n).chars, c.isDigit = true ∨ c = '-' := by
  intro c hc
  have hmem : c ∈ (intText n).toList := hc
  unfold intText natText at hmem
  split at hmem
  · simp only [String.toList_append, String.toList_ofList,
      List.mem_append] at hmem
    rcases hmem with hsign | hdigit
    · exact .inr (by simpa using hsign)
    · exact .inl (isDigit_of_mem_digitChars c hdigit)
  · rw [String.toList_ofList] at hmem
    exact .inl (isDigit_of_mem_digitChars c hmem)

theorem ofInt_inj {m n : Int} : ofInt m = ofInt n ↔ m = n := by
  constructor
  · intro h
    have hchars : (intText m).toList = (intText n).toList :=
      congrArg Word.chars h
    exact intText_inj.mp (String.toList_inj.mp hchars)
  · rintro rfl
    rfl

theorem ofBool_inj {a b : Bool} : ofBool a = ofBool b ↔ a = b := by
  constructor
  · intro h
    have hchars := congrArg Word.chars h
    revert hchars
    cases a <;> cases b <;> decide
  · rintro rfl
    rfl

theorem ofInt_ne_null (n : Int) : ofInt n ≠ null := by
  intro h
  have hn := digit_or_minus_of_mem_ofInt (n := n) 'n'
    (by rw [h]; decide)
  exact absurd hn (by decide)

theorem ofInt_ne_ofBool (n : Int) (b : Bool) : ofInt n ≠ ofBool b := by
  intro h
  have he := digit_or_minus_of_mem_ofInt (n := n) 'e'
    (by rw [h]; cases b <;> decide)
  exact absurd he (by decide)

theorem null_ne_ofBool (b : Bool) : null ≠ ofBool b := by
  intro h
  have hchars := congrArg Word.chars h
  revert hchars
  cases b <;> decide

end Json.Word

/-! ## Values -/

namespace Json

/-- Whether no number in a value is a floating-point one. -/
inductive Exact : Json → Prop where
  | null : Exact .null
  | bool (b : Bool) : Exact (.bool b)
  | whole (n : Int) : Exact (.number (.whole n))
  | string (s : String) : Exact (.string s)
  | array {vs : List Json} (h : ∀ v ∈ vs, Exact v) : Exact (.array vs)
  | object {ms : List (String × Json)} (h : ∀ m ∈ ms, Exact m.2) :
      Exact (.object ms)

theorem exact_array {vs : List Json} :
    Exact (.array vs) ↔ ∀ v ∈ vs, Exact v := by
  constructor
  · rintro ⟨⟩
    assumption
  · exact .array

theorem exact_object {ms : List (String × Json)} :
    Exact (.object ms) ↔ ∀ m ∈ ms, Exact m.2 := by
  constructor
  · rintro ⟨⟩
    assumption
  · exact .object

mutual

/-- A value without floating-point numbers is known from its tree. -/
theorem tree_inj : ∀ {v w : Json}, v.Exact → w.Exact →
    v.tree = w.tree → v = w
  | .null, w, _, hw, h => by
    cases hw with
    | null => rfl
    | bool b => simp [tree, Word.null_ne_ofBool] at h
    | whole n =>
      simp [tree, Word.ofNumber, (Word.ofInt_ne_null n).symm] at h
    | _ => simp [tree] at h
  | .bool a, w, _, hw, h => by
    cases hw with
    | null => simp [tree, (Word.null_ne_ofBool a).symm] at h
    | bool b =>
      rw [tree, tree, Tree.word.injEq, Word.ofBool_inj] at h
      rw [h]
    | whole n =>
      simp [tree, Word.ofNumber, (Word.ofInt_ne_ofBool n a).symm] at h
    | _ => simp [tree] at h
  | .number (.whole m), w, _, hw, h => by
    cases hw with
    | null => simp [tree, Word.ofNumber, Word.ofInt_ne_null] at h
    | bool b => simp [tree, Word.ofNumber, Word.ofInt_ne_ofBool] at h
    | whole n =>
      rw [tree, tree, Tree.word.injEq, Word.ofNumber, Word.ofNumber,
        Word.ofInt_inj] at h
      rw [h]
    | _ => simp [tree] at h
  | .string s, w, _, hw, h => by
    cases hw with
    | string t =>
      rw [tree, tree, Tree.quoted.injEq] at h
      rw [h]
    | _ => simp [tree] at h
  | .array vs, w, hv, hw, h => by
    cases hw with
    | array hws =>
      rw [tree, tree, Tree.array.injEq] at h
      rw [itemTrees_inj (exact_array.mp hv) hws h]
    | _ => simp [tree] at h
  | .object ms, w, hv, hw, h => by
    cases hw with
    | object hns =>
      rw [tree, tree, Tree.object.injEq] at h
      rw [memberTrees_inj (exact_object.mp hv) hns h]
    | _ => simp [tree] at h

/-- Items are known from their trees. -/
theorem itemTrees_inj : ∀ {vs ws : List Json}, (∀ v ∈ vs, Exact v) →
    (∀ w ∈ ws, Exact w) → itemTrees vs = itemTrees ws → vs = ws
  | [], [], _, _, _ => rfl
  | [], w :: ws, _, _, h => by simp [itemTrees] at h
  | v :: vs, [], _, _, h => by simp [itemTrees] at h
  | v :: vs, w :: ws, hvs, hws, h => by
    rw [itemTrees, itemTrees, List.cons.injEq] at h
    obtain ⟨hv, hvs⟩ := List.forall_mem_cons.mp hvs
    obtain ⟨hw, hws⟩ := List.forall_mem_cons.mp hws
    rw [tree_inj hv hw h.1, itemTrees_inj hvs hws h.2]

/-- Members are known from their trees. -/
theorem memberTrees_inj : ∀ {ms ns : List (String × Json)},
    (∀ m ∈ ms, Exact m.2) → (∀ n ∈ ns, Exact n.2) →
    memberTrees ms = memberTrees ns → ms = ns
  | [], [], _, _, _ => rfl
  | [], n :: ns, _, _, h => by simp [memberTrees] at h
  | m :: ms, [], _, _, h => by simp [memberTrees] at h
  | (k, v) :: ms, (l, w) :: ns, hms, hns, h => by
    rw [memberTrees, memberTrees, List.cons.injEq, Prod.mk.injEq] at h
    obtain ⟨⟨rfl, hvalue⟩, hrest⟩ := h
    obtain ⟨hv, hms⟩ := List.forall_mem_cons.mp hms
    obtain ⟨hw, hns⟩ := List.forall_mem_cons.mp hns
    have hvalues : v = w := tree_inj hv hw hvalue
    rw [hvalues, memberTrees_inj hms hns hrest]

end

/-- A value without floating-point numbers is known from its text. -/
theorem render_inj {v w : Json} (hv : v.Exact) (hw : w.Exact) :
    v.render = w.render ↔ v = w := by
  constructor
  · intro h
    rw [render_eq_text, render_eq_text, Tree.text_inj] at h
    exact tree_inj hv hw h
  · rintro rfl
    rfl

end Json

/-- It is known from its base64 key as well. -/
theorem KeyFunction.base64Json_inj {v w : Json} (hv : v.Exact)
    (hw : w.Exact) :
    base64Json.apply v = base64Json.apply w ↔ v = w := by
  rw [← Json.render_inj hv hw]
  exact Digest.base64_inj

end PolicyWeave
