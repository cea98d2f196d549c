import PolicyWeave.Json.Parser
import PolicyWeave.Json.Printer
import PolicyWeave.Proofs.Text.LiteralReader

/-!
# JSON strings read back

`Json.scanString?` undoes `Json.quote`, whatever follows the closing
quote.  So a quoted string tells where it ends, and two of them that start
alike are one string.
-/

namespace PolicyWeave.Json

/-- The digits of a control character spell it. -/
theorem scanUnicode?_control {c : Char} (h : c.toNat < 32)
    (cs : List Char) :
    scanUnicode? ('0' :: '0' :: Text.hexDigit (c.toNat / 16)
        :: Text.hexDigit (c.toNat % 16) :: cs) = some (c, cs) := by
  have hzero : Text.hexValue? '0' = some 0 := by decide
  have hvalue : 16 * (c.toNat / 16) + c.toNat % 16 = c.toNat := by omega
  have hscan : Text.scanHex? 4 0 ('0' :: '0'
      :: Text.hexDigit (c.toNat / 16) :: Text.hexDigit (c.toNat % 16)
      :: cs) = some (c.toNat, cs) := by
    simp only [Text.scanHex?, hzero,
      Text.hexValue?_hexDigit (show c.toNat / 16 < 16 by omega),
      Text.hexValue?_hexDigit (show c.toNat % 16 < 16 by omega)]
    simp [hvalue]
  have hsmall : ¬ 0xD800 ≤ c.toNat := by omega
  have hlow : ¬ 0xDC00 ≤ c.toNat := by omega
  simp [scanUnicode?, hscan, hsmall, hlow]

/-- The reader takes a written character in one step. -/
theorem scanString?_escapeChar (fuel : Nat) (acc : List Char) (c : Char)
    (cs : List Char) :
    scanString? (fuel + 1) acc (escapeChar c ++ cs)
      = scanString? fuel (c :: acc) cs := by
  -- the short escapes first, each of which the reader knows
  by_cases hquote : c = '"'
  · simp [escapeChar, scanString?, hquote]
  by_cases hslash : c = '\\'
  · simp [escapeChar, scanString?, hslash]
  by_cases hnewline : c = '\n'
  · simp [escapeChar, scanString?, hnewline]
  by_cases hreturn : c = '\r'
  · simp [escapeChar, scanString?, hreturn]
  by_cases htab : c = '\t'
  · simp [escapeChar, scanString?, htab]
  by_cases hback : c = '\x08'
  · simp [escapeChar, scanString?, hback]
  by_cases hfeed : c = '\x0c'
  · simp [escapeChar, scanString?, hfeed]
  by_cases hcontrol : c.toNat < 32
  · simp [escapeChar, scanString?, hquote, hslash, hnewline, hreturn, htab,
      hback, hfeed, hcontrol, scanUnicode?_control hcontrol]
  · simp [escapeChar, scanString?, hquote, hslash, hnewline, hreturn, htab,
      hback, hfeed, hcontrol]

/-- The reader takes written characters up to the closing quote. -/
theorem scanString?_flatMap_escapeChar {fuel : Nat} {run : List Char}
    (hfuel : run.length < fuel) (acc rest : List Char) :
    scanString? fuel acc (run.flatMap escapeChar ++ '"' :: rest)
      = some (String.ofList (acc.reverse ++ run), rest) := by
  induction run generalizing fuel acc with
  | nil =>
    obtain ⟨fuel, rfl⟩ := Nat.exists_eq_add_one_of_ne_zero
      (Nat.ne_zero_of_lt hfuel)
    simp [scanString?]
  | cons c run ih =>
    obtain ⟨fuel, rfl⟩ := Nat.exists_eq_add_one_of_ne_zero
      (Nat.ne_zero_of_lt hfuel)
    have hrun : run.length < fuel := by simpa using hfuel
    rw [List.flatMap_cons, List.append_assoc, scanString?_escapeChar,
      ih hrun]
    simp

/-- The characters of a quoted string. -/
theorem toList_quote (s : String) :
    (quote s).toList = '"' :: (s.toList.flatMap escapeChar ++ ['"']) := by
  simp [quote]

/-- A quoted string tells where it ends. -/
theorem quote_append_inj {s s' : String} {rest rest' : List Char}
    (h : (quote s).toList ++ rest = (quote s').toList ++ rest') :
    s = s' ∧ rest = rest' := by
  simp only [toList_quote, List.cons_append, List.append_assoc,
    List.nil_append, List.cons.injEq, true_and] at h
  -- enough fuel for either string
  have hfuel : s.toList.length < s.length + s'.length + 1 := by
    rw [String.length_toList]
    omega
  have hfuel' : s'.toList.length < s.length + s'.length + 1 := by
    rw [String.length_toList]
    omega
  have hleft := scanString?_flatMap_escapeChar hfuel [] rest
  have hright := scanString?_flatMap_escapeChar hfuel' [] rest'
  rw [h, hright] at hleft
  simpa [eq_comm] using hleft

end PolicyWeave.Json
