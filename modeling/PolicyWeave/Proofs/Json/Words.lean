import PolicyWeave.Key.Datum
import PolicyWeave.Proofs.Number.Numerals
import PolicyWeave.Proofs.Text.Runs

/-!
# JSON words

A word is a literal name or a number: a piece of JSON text that is neither
quoted nor bracketed.  It ends where its characters do, so what matters
about a word is its characters.

* `Json.Word` is the type of words, and `Json.Word.append_inj` says that a
  word in front of other characters is known from the text.
* `Json.Word.ofWhole` and `Json.Word.ofLayout` are the words of numbers.
-/

namespace PolicyWeave

open Number

/-! ## Words -/

namespace Json

/-- The characters of words. -/
def isWordChar (c : Char) : Bool :=
  c.isAlphanum || c == '-' || c == '+' || c == '.'

/-- Whether all characters belong to words. -/
def WordChars (cs : List Char) : Prop :=
  ∀ c ∈ cs, isWordChar c = true

instance (cs : List Char) : Decidable (WordChars cs) :=
  decidable_of_iff (cs.all isWordChar = true) List.all_eq_true

/-- Whether a word that stands in front of the characters ends there. -/
def WordEnds (cs : List Char) : Prop :=
  ∀ c ∈ cs.head?, isWordChar c = false

/-- A word. -/
structure Word where
  chars : List Char
  ne_nil : chars ≠ []
  plain : WordChars chars

theorem wordChars_append {cs ds : List Char} :
    WordChars (cs ++ ds) ↔ WordChars cs ∧ WordChars ds :=
  List.forall_mem_append

theorem wordChars_cons {c : Char} {cs : List Char} :
    WordChars (c :: cs) ↔ isWordChar c = true ∧ WordChars cs :=
  List.forall_mem_cons

/-- A word tells where it ends. -/
theorem Word.append_inj {w w' : Word} {rest rest' : List Char}
    (hrest : WordEnds rest) (hrest' : WordEnds rest')
    (h : w.chars ++ rest = w'.chars ++ rest') : w = w' ∧ rest = rest' := by
  obtain ⟨hchars, hrests⟩ :=
    Text.run_append_inj w.plain w'.plain hrest hrest' h
  obtain ⟨chars, _, _⟩ := w
  obtain ⟨chars', _, _⟩ := w'
  obtain rfl : chars = chars' := hchars
  exact ⟨rfl, hrests⟩

/-- A word starts with one of its characters. -/
theorem Word.exists_cons (w : Word) :
    ∃ c cs, w.chars = c :: cs ∧ isWordChar c = true := by
  cases hchars : w.chars with
  | nil => exact absurd hchars w.ne_nil
  | cons c cs =>
    exact ⟨c, cs, rfl, w.plain c (by simp [hchars])⟩

end Json

/-! ## Numerals -/

namespace Number

open Json (WordChars)

theorem wordChars_digitChars (n : Nat) : WordChars (digitChars n) := by
  have hdigit : ∀ d < 10, Json.isWordChar (Char.ofNat (48 + d)) = true := by
    decide
  fun_induction digitChars n with
  | case1 n hn => simpa [WordChars] using hdigit n hn
  | case2 n hn ih =>
    refine Json.wordChars_append.mpr ⟨ih, ?_⟩
    simpa [WordChars] using hdigit (n % 10) (Nat.mod_lt n (by omega))

theorem wordChars_intText (n : Int) : WordChars (intText n).toList := by
  unfold intText natText
  split
  · have hminus : WordChars "-".toList := by decide
    simpa using Json.wordChars_append.mpr
      ⟨hminus, wordChars_digitChars n.natAbs⟩
  · simpa using wordChars_digitChars n.natAbs

theorem intText_toList_ne_nil (n : Int) : (intText n).toList ≠ [] := by
  unfold intText natText
  split <;> simp [digitChars_ne_nil]

theorem wordChars_replicate {c : Char} (hc : Json.isWordChar c = true)
    (k : Nat) : WordChars (List.replicate k c) := by
  intro d hd
  rw [List.eq_of_mem_replicate hd]
  exact hc

namespace Layout

theorem wordChars_positional (l : Layout) (d : Decimal) :
    WordChars (l.positional d) := by
  have hdigits := wordChars_digitChars d.digits
  have hzero := wordChars_replicate (c := '0') (by decide)
  have hpoint : Json.isWordChar '.' = true := by decide
  unfold positional
  dsimp only
  split
  · refine Json.wordChars_append.mpr
      ⟨Json.wordChars_append.mpr ⟨hdigits, hzero _⟩, ?_⟩
    split
    · decide
    · decide
  · split
    · refine Json.wordChars_append.mpr ⟨?_, Json.wordChars_cons.mpr
        ⟨hpoint, ?_⟩⟩
      · exact fun c hc => hdigits c (List.mem_of_mem_take hc)
      · exact fun c hc => hdigits c (List.mem_of_mem_drop hc)
    · refine Json.wordChars_append.mpr
        ⟨Json.wordChars_append.mpr ⟨by decide, hzero _⟩, hdigits⟩

theorem positional_ne_nil (l : Layout) (d : Decimal) :
    l.positional d ≠ [] := by
  unfold positional
  dsimp only
  split
  · simp [digitChars_ne_nil]
  · split <;> simp

theorem wordChars_scientific (l : Layout) (d : Decimal) (x : Int) :
    WordChars (l.scientific d x) := by
  have hdigits := wordChars_digitChars d.digits
  have hpoint : Json.isWordChar '.' = true := by decide
  have he : Json.isWordChar 'e' = true := by decide
  have hsign : WordChars
      (if x < 0 then ['-'] else if l.exponentPlus then ['+'] else []) := by
    split
    · decide
    · split <;> decide
  unfold scientific
  dsimp only
  refine Json.wordChars_append.mpr ⟨Json.wordChars_append.mpr
    ⟨?_, Json.wordChars_cons.mpr ⟨he, hsign⟩⟩, wordChars_digitChars _⟩
  split
  · decide
  · simp_all
  · simp_all [Json.wordChars_cons]

theorem wordChars_ofDecimal (l : Layout) (d : Decimal) :
    WordChars (l.ofDecimal d) ∧ l.ofDecimal d ≠ [] := by
  unfold ofDecimal
  dsimp only
  split
  · exact ⟨l.wordChars_positional d, l.positional_ne_nil d⟩
  · exact ⟨l.wordChars_scientific d _, by simp [scientific]⟩

/-- A finite number is written as a word. -/
theorem wordChars_render_finite (l : Layout) (f : Format) (s : Bool)
    (m : Nat) (e : Int) :
    WordChars (l.render f (.finite s m e)).toList
      ∧ (l.render f (.finite s m e)).toList ≠ [] := by
  have hminus : Json.isWordChar '-' = true := by decide
  have hbody : WordChars
      (if m == 0 then if l.keepsPoint then ['0', '.', '0'] else ['0']
        else l.ofDecimal (f.shortest l.tie m e)) := by
    split
    · split <;> decide
    · exact (l.wordChars_ofDecimal _).1
  simp only [render, String.toList_ofList]
  split
  · exact ⟨Json.wordChars_cons.mpr ⟨hminus, hbody⟩, by simp⟩
  · refine ⟨hbody, ?_⟩
    split
    · split <;> simp
    · exact (l.wordChars_ofDecimal _).2

end Layout

end Number

/-! ## The words of values -/

namespace Json.Word

/-- A literal name. -/
def null : Word := ⟨"null".toList, by decide, by decide⟩

/-- A truth value. -/
def ofBool (b : Bool) : Word :=
  ⟨(if b then "true" else "false").toList, by cases b <;> decide,
    by cases b <;> decide⟩

/-- An integer. -/
def ofInt (n : Int) : Word :=
  ⟨(intText n).toList, intText_toList_ne_nil n, wordChars_intText n⟩

/-- A number as JSON text has it. -/
def ofNumber : JsonNumber → Word
  | .whole n => ofInt n
  | .double .nan => null
  | .double (.infinity s) =>
    ⟨(numberText (.double (.infinity s))).toList, by cases s <;> decide,
      by cases s <;> decide⟩
  | .double (.finite s m e) =>
    ⟨(numberText (.double (.finite s m e))).toList,
      (jsonLayout.wordChars_render_finite Format.double s m e).2,
      (jsonLayout.wordChars_render_finite Format.double s m e).1⟩

/-- The word of a number is its text. -/
theorem chars_ofNumber (n : JsonNumber) :
    (ofNumber n).chars = (numberText n).toList := by
  match n with
  | .whole n => rfl
  | .double .nan => rfl
  | .double (.infinity s) => rfl
  | .double (.finite s m e) => rfl

/-- A number of a native value. -/
def ofBinary (l : Layout) (f : Format) : Binary → Word
  | .finite s m e =>
    ⟨(l.render f (.finite s m e)).toList,
      (l.wordChars_render_finite f s m e).2,
      (l.wordChars_render_finite f s m e).1⟩
  | _ => null

/-- The word of a number of a native value is its text. -/
theorem chars_ofBinary (l : Layout) (f : Format) (x : Binary) :
    (ofBinary l f x).chars = (Datum.numberText l f x).toList := by
  cases x <;> rfl

/-- Words with the same text are the same. -/
theorem ext_chars {w w' : Word} (h : w.chars = w'.chars) : w = w' := by
  obtain ⟨chars, _, _⟩ := w
  obtain ⟨chars', _, _⟩ := w'
  obtain rfl : chars = chars' := h
  rfl

end Json.Word

end PolicyWeave
