import PolicyWeave.Config.Error
import PolicyWeave.Proofs.Duration
import PolicyWeave.Proofs.Template.Positions
import PolicyWeave.Proofs.Text.Trimming

/-!
# Which texts are durations

A text is a duration exactly if, without the blanks at its ends, it is a
number made of digits and at most one point, blanks or none, and the symbol
of a unit.

* `Duration.Spelled` is the form of a text, a number and a unit.
  `Duration.parseTrimmed?_of_spelled` reads it, and
  `Duration.exists_spelled_of_parseTrimmed?` says that nothing else is read.
* `Duration.unitIndex` counts the characters in front of the unit, and
  `Duration.readCut?` takes that for a number of bytes.  Those characters
  are one byte each, so the cut is never inside a character.
* `Duration.read_exact` puts the parts together.
-/

namespace PolicyWeave

open Number
open Text (Blank isBlank byteLength)

/-! ## Cutting at a byte -/

/-- The text in front of byte `n` and the text behind it.  There is no cut
inside a character or past the end. -/
def Text.cutAt? : Nat → List Char → Option (List Char × List Char)
  | 0, cs => some ([], cs)
  | _ + 1, [] => none
  | n + 1, c :: cs =>
    if c.utf8Size ≤ n + 1 then
      (cutAt? (n + 1 - c.utf8Size) cs).map fun cut => (c :: cut.1, cut.2)
    else none

theorem Text.cutAt?_byteLength (front rest : List Char) :
    cutAt? (byteLength front) (front ++ rest) = some (front, rest) := by
  induction front with
  | nil => cases rest <;> rfl
  | cons c front ih =>
    obtain ⟨n, hn⟩ := Nat.exists_eq_add_of_lt c.utf8Size_pos
    have hlength : byteLength (c :: front) = (n + byteLength front) + 1 := by
      simp [hn]
      omega
    rw [hlength, List.cons_append, cutAt?, if_pos (by omega),
      show n + byteLength front + 1 - c.utf8Size = byteLength front by omega,
      ih]
    rfl

namespace Duration

variable {t number cs : List Char} {u : TimeUnit}

/-! ## Numbers and units -/

/-- A run of digits and points with at least one digit and at most one
point. -/
structure IsNumber (cs : List Char) : Prop where
  chars : ∀ c ∈ cs, c.isDigit = true ∨ c = '.'
  digit : ∃ c ∈ cs, c.isDigit = true
  point : cs.count '.' ≤ 1

/-- A text is a number, blanks or none, and the symbol of a unit. -/
def Spelled (t number : List Char) (u : TimeUnit) : Prop :=
  IsNumber number ∧ ∃ gap, Blank gap ∧ t = number ++ (gap ++ u.symbol.toList)

theorem isNumberChar_iff {c : Char} :
    isNumberChar c = true ↔ c.isDigit = true ∨ c = '.' := by
  simp [isNumberChar]

theorem IsNumber.isNumberChar (h : IsNumber cs) :
    ∀ c ∈ cs, isNumberChar c = true :=
  fun c hc => isNumberChar_iff.mpr (h.chars c hc)

theorem not_isBlank_of_isNumberChar {c : Char} (h : isNumberChar c = true) :
    isBlank c = false := by
  rcases isNumberChar_iff.mp h with hdigit | rfl
  · exact Text.isBlank_of_isDigit hdigit
  · rfl

theorem not_isNumberChar_of_isBlank {c : Char} (h : isBlank c = true) :
    isNumberChar c = false := by
  refine Bool.eq_false_iff.mpr fun hnumber => ?_
  rw [not_isBlank_of_isNumberChar hnumber] at h
  cases h

/-- A number reads as the double of its numeral. -/
theorem IsNumber.number?_eq (h : IsNumber cs) :
    number? cs = some ((scanNumeral cs).1.toDouble false) := by
  have hcount : cs.countP (· == '.') = cs.count '.' := rfl
  rw [number?, if_pos]
  simpa [hcount, h.point] using h.digit

/-- A run of digits and points reads as a double exactly if it is a
number. -/
theorem isNumber_iff (h : ∀ c ∈ cs, isNumberChar c = true) :
    IsNumber cs ↔ (number? cs).isSome = true := by
  constructor
  · intro hnumber
    rw [hnumber.number?_eq]
    rfl
  · intro hsome
    rw [number?] at hsome
    split at hsome
    · rename_i hparts
      simp only [Bool.and_eq_true, List.any_eq_true,
        decide_eq_true_eq] at hparts
      exact ⟨fun c hc => isNumberChar_iff.mp (h c hc), hparts.1, hparts.2⟩
    · cases hsome

instance (cs : List Char) : Decidable (IsNumber cs) :=
  decidable_of_iff
    (cs.all isNumberChar = true ∧ (number? cs).isSome = true)
    ⟨fun h => (isNumber_iff (List.all_eq_true.mp h.1)).mpr h.2, fun h =>
      ⟨List.all_eq_true.mpr h.isNumberChar,
        (isNumber_iff h.isNumberChar).mp h⟩⟩

theorem TimeUnit.symbol_ofSymbol? (h : TimeUnit.ofSymbol? cs = some u) :
    cs = u.symbol.toList := by
  have hsymbol := List.find?_some h
  exact (eq_of_beq hsymbol).symm

/-! ## Reading what is spelled -/

/-- Behind its number, a text that is spelled goes on with a blank or with
a letter. -/
theorem not_isNumberChar_head {gap : List Char} (hgap : Blank gap) :
    ∀ c ∈ (gap ++ u.symbol.toList).head?, isNumberChar c = false := by
  cases gap with
  | nil => cases u <;> rintro c ⟨⟩ <;> rfl
  | cons c gap =>
    rintro d ⟨⟩
    exact not_isNumberChar_of_isBlank (hgap c (by simp))

/-- The symbol of a unit has no blanks at its ends. -/
theorem trim_symbol {gap : List Char} (hgap : Blank gap) :
    Text.trim (gap ++ u.symbol.toList) = u.symbol.toList := by
  refine Text.trim_eq_iff.mpr ⟨⟨gap, [], hgap, ?_, ?_⟩, ?_, ?_⟩
  · exact Text.blank_nil
  · rw [List.append_nil]
  · cases u <;> rintro c ⟨⟩ <;> rfl
  · cases u <;> rintro c ⟨⟩ <;> rfl

/-- A text that is spelled reads as its number of its units. -/
theorem parseTrimmed?_of_spelled (h : Spelled t number u) :
    parseTrimmed? t
      = some (ofUnits ((scanNumeral number).1.toDouble false) u) := by
  obtain ⟨hnumber, gap, hgap, rfl⟩ := h
  have hhead := not_isNumberChar_head (u := u) hgap
  rw [parseTrimmed?,
    Text.takeWhile_append_of_head hnumber.isNumberChar hhead,
    Text.dropWhile_append_of_head hnumber.isNumberChar hhead,
    trim_symbol hgap, TimeUnit.ofSymbol?_symbol, hnumber.number?_eq]
  rfl

/-- A text without a blank at its end that reads as a duration is
spelled. -/
theorem exists_spelled_of_parseTrimmed? {d : Duration}
    (hlast : ∀ c ∈ t.getLast?, isBlank c = false)
    (h : parseTrimmed? t = some d) : ∃ number u, Spelled t number u := by
  simp only [parseTrimmed?, Option.bind_eq_bind,
    Option.bind_eq_some_iff] at h
  obtain ⟨x, hx, u, hu, -⟩ := h
  have hnumber : IsNumber (t.takeWhile isNumberChar) :=
    (isNumber_iff fun _ => List.mem_takeWhile_imp).mpr
      (Option.isSome_iff_exists.mpr ⟨x, hx⟩)
  obtain ⟨⟨gap, after, hgap, hafter, hrest⟩, -, -⟩ :=
    Text.trim_eq_iff.mp (TimeUnit.symbol_ofSymbol? hu)
  have ht : t = t.takeWhile isNumberChar
      ++ (gap ++ (u.symbol.toList ++ after)) := by
    rw [← hrest, List.takeWhile_append_dropWhile]
  -- blanks behind the symbol would be at the end of the text
  obtain rfl : after = [] := by
    by_contra hne
    have hend : after.getLast hne ∈ t.getLast? := by
      rw [ht]
      simp [List.getLast?_append, List.getLast?_eq_some_getLast hne]
    have hblank := hafter _ (List.getLast_mem hne)
    rw [hlast _ hend] at hblank
    cases hblank
  rw [List.append_nil] at ht
  exact ⟨_, u, hnumber, gap, hgap, ht⟩

/-- Exactly the texts that are spelled are durations. -/
theorem exists_parse?_iff (s : String) :
    (∃ d, parse? s = some d)
      ↔ ∃ number u, Spelled (Text.trim s.toList) number u := by
  constructor
  · rintro ⟨d, h⟩
    exact exists_spelled_of_parseTrimmed? (Text.trimmed_trim _).last h
  · rintro ⟨number, u, h⟩
    exact ⟨_, parseTrimmed?_of_spelled h⟩

/-- A text that is spelled holds digits, points, blanks and the letters of
a unit only. -/
theorem Spelled.mem (h : Spelled t number u) :
    ∀ c ∈ t, c.isDigit = true ∨ c = '.' ∨ isBlank c = true
      ∨ c ∈ u.symbol.toList := by
  obtain ⟨hnumber, gap, hgap, rfl⟩ := h
  intro c hc
  rcases List.mem_append.mp hc with hc | hc
  · rcases hnumber.chars c hc with hdigit | hpoint
    · exact .inl hdigit
    · exact .inr (.inl hpoint)
  · rcases List.mem_append.mp hc with hc | hc
    · exact .inr (.inr (.inl (hgap c hc)))
    · exact .inr (.inr (.inr hc))

/-- A text that is spelled has no blanks at its ends. -/
theorem Spelled.trim_eq (h : Spelled t number u) : Text.trim t = t := by
  obtain ⟨hnumber, gap, -, rfl⟩ := h
  refine Text.trim_of_ends ?_ ?_
  · obtain ⟨c, hc, -⟩ := hnumber.digit
    obtain ⟨d, rest, rfl⟩ :=
      List.exists_cons_of_ne_nil (List.ne_nil_of_mem hc)
    rintro e ⟨⟩
    exact not_isBlank_of_isNumberChar (hnumber.isNumberChar d (by simp))
  · have hsymbol : ∀ c ∈ u.symbol.toList.getLast?, isBlank c = false := by
      cases u <;> rintro c ⟨⟩ <;> rfl
    rwa [← List.append_assoc,
      List.getLast?_append_of_ne_nil _ (by cases u <;> decide +kernel)]

/-! ## The place of the unit -/

/-- The number of characters in front of the unit; in a text without a
unit, its number of bytes. -/
def unitIndex (t : List Char) : Nat :=
  (t.findIdx? fun c => !isNumberChar c).getD (byteLength t)

/-- Digits and points are one byte each. -/
theorem byteLength_of_isNumberChar (h : ∀ c ∈ cs, isNumberChar c = true) :
    byteLength cs = cs.length := by
  induction cs with
  | nil => rfl
  | cons c cs ih =>
    rw [List.forall_mem_cons] at h
    have hsize : c.utf8Size = 1 := by
      rcases isNumberChar_iff.mp h.1 with hdigit | rfl
      · have hcode : c.toNat ≤ 57 := by
          have hrange : 48 ≤ c.toNat ∧ c.toNat ≤ 57 := by
            simpa [Char.isDigit, UInt32.le_iff_toNat_le] using hdigit
          exact hrange.2
        exact Char.utf8Size_eq_one_iff.mpr
          (UInt32.le_iff_toNat_le.mpr (hcode.trans (by decide)))
      · rfl
    rw [Text.byteLength_cons, ih h.2, hsize, List.length_cons,
      Nat.add_comm]

/-- The characters in front of the unit are as many as their bytes. -/
theorem byteLength_takeWhile (t : List Char) :
    byteLength (t.takeWhile isNumberChar) = unitIndex t := by
  unfold unitIndex
  cases hfind : t.findIdx? fun c => !isNumberChar c with
  | none =>
    have hall : ∀ c ∈ t, isNumberChar c = true := by
      simpa using List.findIdx?_eq_none_iff.mp hfind
    rw [List.takeWhile_eq_self_iff.mpr hall]
    rfl
  | some n =>
    obtain ⟨hn, -, -⟩ := List.findIdx?_eq_some_iff_getElem.mp hfind
    have hindex : t.findIdx (fun c => !isNumberChar c) = n :=
      (List.findIdx?_eq_some_iff_findIdx_eq.mp hfind).2
    rw [byteLength_of_isNumberChar fun _ => List.mem_takeWhile_imp,
      List.takeWhile_eq_take_findIdx_not, hindex, List.length_take]
    exact Nat.min_eq_left hn.le

theorem isValid_unitIndex (t : List Char) :
    String.Pos.Raw.IsValid (String.ofList t) ⟨unitIndex t⟩ := by
  have hleft : Text.LeftAt (String.ofList t).toList (unitIndex t)
      (t.dropWhile isNumberChar) := by
    rw [String.toList_ofList]
    exact ⟨t.takeWhile isNumberChar, List.takeWhile_append_dropWhile.symm,
      byteLength_takeWhile t⟩
  exact hleft.isValid

/-- The duration of a text by a cut at the place of the unit.  There is no
result if that place is inside a character. -/
def readCut? (s : String) : Option (Except ConfigError Duration) := do
  let t := Text.trim s.toList
  let fault := .error (.invalidDuration (String.ofList t))
  if t.isEmpty then return fault
  let (number, rest) ← Text.cutAt? (unitIndex t) t
  match number? number, TimeUnit.ofSymbol? (Text.trim rest) with
  | some x, some u => return .ok (ofUnits x u)
  | _, _ => return fault

/-- The cut is always between two characters, and in front of it stands
the number. -/
theorem readCut?_eq (s : String) : readCut? s = some (read s) := by
  have hcut (t : List Char) : Text.cutAt? (unitIndex t) t
      = some (t.takeWhile isNumberChar, t.dropWhile isNumberChar) := by
    have hlength := Text.cutAt?_byteLength (t.takeWhile isNumberChar)
      (t.dropWhile isNumberChar)
    rwa [byteLength_takeWhile, List.takeWhile_append_dropWhile] at hlength
  simp only [readCut?, read, parse?, hcut]
  generalize Text.trim s.toList = t
  cases t with
  | nil => rfl
  | cons c t =>
    cases hnumber : number? ((c :: t).takeWhile isNumberChar) with
    | none => simp [parseTrimmed?, hnumber]
    | some x =>
      cases hunit : TimeUnit.ofSymbol?
          (Text.trim ((c :: t).dropWhile isNumberChar)) with
      | none => simp [parseTrimmed?, hnumber, hunit]
      | some u => simp [parseTrimmed?, hnumber, hunit]

/-! ## Exactness -/

/-- Reading has the duration that is read, if there is one. -/
theorem exists_read_iff (s : String) :
    (∃ d, read s = .ok d) ↔ ∃ d, parse? s = some d := by
  rw [read]
  cases parse? s <;> simp

theorem read_error_iff (s : String) :
    read s = .error
        (.invalidDuration (String.ofList (Text.trim s.toList)))
      ↔ ¬ ∃ d, parse? s = some d := by
  rw [read]
  cases parse? s <;> simp

/-- Reading a text of any characters has a result: its duration exactly if
the text is spelled, and otherwise the error with the text without the
blanks at its ends. -/
theorem read_exact (s : String) :
    readCut? s = some (read s)
      ∧ String.Pos.Raw.IsValid (String.ofList (Text.trim s.toList))
          ⟨unitIndex (Text.trim s.toList)⟩
      ∧ ((∃ d, read s = .ok d)
          ↔ ∃ number u, Spelled (Text.trim s.toList) number u)
      ∧ (read s = .error
            (.invalidDuration (String.ofList (Text.trim s.toList)))
          ↔ ¬ ∃ number u, Spelled (Text.trim s.toList) number u)
      ∧ ((∃ d, read s = .ok d) → ∀ c ∈ Text.trim s.toList,
          c.isDigit = true ∨ c = '.' ∨ isBlank c = true
            ∨ ∃ u : TimeUnit, c ∈ u.symbol.toList) := by
  refine ⟨readCut?_eq s, isValid_unitIndex _, ?_, ?_,
    fun hread c hc => ?_⟩
  · rw [exists_read_iff, exists_parse?_iff]
  · rw [read_error_iff, exists_parse?_iff]
  · obtain ⟨number, u, h⟩ :=
      (exists_parse?_iff s).mp ((exists_read_iff s).mp hread)
    rcases h.mem c hc with hdigit | hpoint | hblank | hsymbol
    · exact .inl hdigit
    · exact .inr (.inl hpoint)
    · exact .inr (.inr (.inl hblank))
    · exact .inr (.inr (.inr ⟨u, hsymbol⟩))

/-- The blank in front of the unit may be a wide one. -/
theorem read_exact_wide :
    (∃ d, read " 1.5\u3000h" = .ok d)
      ∧ ∀ c ∈ Text.trim " 1.5\u3000h".toList,
        c.isDigit = true ∨ c = '.' ∨ isBlank c = true
          ∨ ∃ u : TimeUnit, c ∈ u.symbol.toList :=
  have h : ∃ d, read " 1.5\u3000h" = .ok d := ⟨_, rfl⟩
  ⟨h, (read_exact " 1.5\u3000h").2.2.2.2 h⟩

/-- Signs, exponents and words are no numbers, and neither are the digits
of other scripts. -/
example :
    ["+1s", "-1s", "1e3s", "infs", "nans", "1.5.2s", ".s", "\u0663s"].all
      (fun s => (parse? s).isNone) = true := by
  decide +kernel

end Duration

end PolicyWeave
