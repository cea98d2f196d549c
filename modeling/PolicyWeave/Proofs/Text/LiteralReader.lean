import Mathlib.Algebra.Group.Nat.Defs
import PolicyWeave.Text.Hex
import PolicyWeave.Text.Literal

/-!
# Reading string literals

`literal` writes a text between double quotes.  This module reads such a
literal and proves that every text comes back.

* `readLiteral?` reads the literal at the front of some characters and
  leaves what follows its closing quote.  It knows the short escapes and
  the escapes by code point, and refuses any other.
* `readLiteral?_literalChars` says that the reader undoes the writer,
  whatever the text is and whatever follows it.

The one escape of variable length is that of a code point, so the work is
in `readRest?_hexDigits`: the digits that the writer gives spell their
number, and at most six of them are ever needed.
-/

namespace PolicyWeave.Text

/-! ## The reader -/

/-- Where the reader stands inside a literal: between characters, behind
a backslash, in front of the braces of a code point, or behind a number of
digits that spell a number. -/
inductive LiteralState where
  | plain
  | escape
  | codePoint
  | digits (count value : Nat)

/-- The character that a short escape stands for. -/
def shortEscape? (c : Char) : Option Char :=
  if c == 'n' then some '\n'
  else if c == 'r' then some '\r'
  else if c == 't' then some '\t'
  else if c == '0' then some '\x00'
  else if c == '\\' || c == '"' || c == '\'' then some c
  else none

/-- A character in front of a text that was read. -/
def consRead (c : Char) (r : Option (List Char × List Char)) :
    Option (List Char × List Char) :=
  r.map fun r => (c :: r.1, r.2)

/-- The rest of a literal and what follows its closing quote.  An escape
by code point has one to six digits. -/
def readRest? : LiteralState → List Char → Option (List Char × List Char)
  | _, [] => none
  | .plain, c :: cs =>
    if c == '"' then some ([], cs)
    else if c == '\\' then readRest? .escape cs
    else consRead c (readRest? .plain cs)
  | .escape, c :: cs =>
    if c == 'u' then readRest? .codePoint cs
    else (shortEscape? c).bind fun c => consRead c (readRest? .plain cs)
  | .codePoint, c :: cs =>
    if c == '{' then readRest? (.digits 0 0) cs else none
  | .digits count value, c :: cs =>
    if c == '}' then
      if 0 < count && value.isValidChar then
        consRead (Char.ofNat value) (readRest? .plain cs)
      else none
    else if count < 6 then
      (hexValue? c).bind fun v =>
        readRest? (.digits (count + 1) (16 * value + v)) cs
    else none

/-- The literal at the front and what follows it. -/
def readLiteral? : List Char → Option (List Char × List Char)
  | '"' :: cs => readRest? .plain cs
  | _ => none

/-! ## Digits -/

/-- A digit reads back as its value. -/
theorem hexValue?_hexDigit {n : Nat} (h : n < 16) :
    hexValue? (hexDigit n) = some n := by
  have hall : ∀ m : Fin 16, hexValue? (hexDigit m) = some m.val := by
    decide
  exact hall ⟨n, h⟩

/-- No digit closes an escape. -/
theorem hexDigit_ne_close {n : Nat} (h : n < 16) : hexDigit n ≠ '}' := by
  have hall : ∀ m : Fin 16, hexDigit m ≠ '}' := by decide
  exact hall ⟨n, h⟩

/-- A number below a power of sixteen has no more digits than the
exponent. -/
theorem length_hexDigits_le {k n : Nat} (hk : 0 < k) (h : n < 16 ^ k) :
    (hexDigits n).length ≤ k := by
  induction k generalizing n with
  | zero => omega
  | succ k ih =>
    rw [hexDigits]
    split
    · simp
    · rename_i hn
      have hpos : 0 < k := by
        rcases Nat.eq_zero_or_pos k with rfl | hpos
        · omega
        · exact hpos
      have hdiv : n / 16 < 16 ^ k := by
        rw [Nat.div_lt_iff_lt_mul (by omega)]
        rw [Nat.pow_succ] at h
        exact h
      have := ih hpos hdiv
      simp only [List.length_append, List.length_cons, List.length_nil]
      omega

theorem length_hexDigits_pos (n : Nat) : 0 < (hexDigits n).length := by
  rw [hexDigits]
  split <;> simp

/-- The value that the digits of `n` add behind a value already read. -/
theorem readRest?_hexDigits (n : Nat) :
    ∀ (count value : Nat) (cs : List Char),
      count + (hexDigits n).length ≤ 6 →
      readRest? (.digits count value) (hexDigits n ++ cs)
        = readRest? (.digits (count + (hexDigits n).length)
            (16 ^ (hexDigits n).length * value + n)) cs := by
  induction n using hexDigits.induct with
  | case1 n h =>
    intro count value cs hcount
    rw [hexDigits, if_pos h] at hcount ⊢
    have hlt : count < 6 := hcount
    simp [readRest?, hexDigit_ne_close h, hexValue?_hexDigit h, hlt]
  | case2 n h ih =>
    intro count value cs hcount
    rw [hexDigits, if_neg h] at hcount ⊢
    have hmod : n % 16 < 16 := Nat.mod_lt _ (by omega)
    simp only [List.length_append, List.length_cons, List.length_nil]
      at hcount
    rw [List.append_assoc, ih count value _ (by omega)]
    have hlt : count + (hexDigits (n / 16)).length < 6 := by omega
    have hvalue : 16 * (16 ^ (hexDigits (n / 16)).length * value + n / 16)
        + n % 16 = 16 ^ ((hexDigits (n / 16)).length + 1) * value + n := by
      rw [Nat.pow_succ, Nat.mul_add, Nat.add_assoc, Nat.div_add_mod,
        Nat.mul_comm _ 16, Nat.mul_assoc]
    simp [readRest?, hexDigit_ne_close hmod, hexValue?_hexDigit hmod, hlt,
      hvalue, Nat.add_assoc]

/-! ## Characters and texts -/

/-- A code point has at most six digits. -/
theorem length_hexDigits_toNat_le (c : Char) :
    (hexDigits c.toNat).length ≤ 6 := by
  apply length_hexDigits_le (by omega)
  have hvalid : c.toNat < 0x110000 := by
    rcases c.valid with h | ⟨_, h⟩
    · exact Nat.lt_trans h (by decide)
    · exact h
  exact Nat.lt_trans hvalid (by decide)

/-- A code point between its braces reads back as its character. -/
theorem readRest?_codePoint (c : Char) (cs : List Char) :
    readRest? (.digits 0 0) (hexDigits c.toNat ++ '}' :: cs)
      = consRead c (readRest? .plain cs) := by
  have hlength := length_hexDigits_toNat_le c
  have hpos := length_hexDigits_pos c.toNat
  have hvalid : c.toNat.isValidChar := c.valid
  rw [readRest?_hexDigits _ 0 0 _ (by omega)]
  simp [readRest?, hpos, hvalid, Char.ofNat_toNat]

/-- A character reads back from its form inside a literal. -/
theorem readRest?_escapeChar (c : Char) (cs : List Char) :
    readRest? .plain (escapeChar c ++ cs)
      = consRead c (readRest? .plain cs) := by
  unfold escapeChar
  -- The short escapes first, then the code points, then the rest.
  by_cases hquote : c = '"'
  · subst hquote
    simp [readRest?, shortEscape?]
  by_cases hslash : c = '\\'
  · subst hslash
    simp [readRest?, shortEscape?]
  by_cases hfeed : c = '\n'
  · subst hfeed
    simp [readRest?, shortEscape?]
  by_cases hreturn : c = '\r'
  · subst hreturn
    simp [readRest?, shortEscape?]
  by_cases htab : c = '\t'
  · subst htab
    simp [readRest?, shortEscape?]
  by_cases hzero : c = '\x00'
  · subst hzero
    simp [readRest?, shortEscape?]
  simp only [beq_iff_eq, hquote, hslash, hfeed, hreturn, htab, hzero,
    if_false]
  split
  · have hcode := readRest?_codePoint c cs
    simpa [readRest?] using hcode
  · simp [readRest?, hquote, hslash]

/-- A text reads back from its form inside a literal. -/
theorem readRest?_flatMap_escapeChar (cs rest : List Char) :
    readRest? .plain (cs.flatMap escapeChar ++ '"' :: rest)
      = some (cs, rest) := by
  induction cs with
  | nil => simp [readRest?]
  | cons c cs ih =>
    rw [List.flatMap_cons, List.append_assoc, readRest?_escapeChar, ih]
    rfl

/-- Reading a literal undoes writing it. -/
theorem readLiteral?_literalChars (cs rest : List Char) :
    readLiteral? (literalChars cs ++ rest) = some (cs, rest) := by
  have hbody := readRest?_flatMap_escapeChar cs rest
  simpa [literalChars, readLiteral?] using hbody

end PolicyWeave.Text
