/-!
# Hexadecimal digits

The values of digits and of counted runs of them, as escapes in texts
spell characters.
-/

namespace PolicyWeave.Text

/-- The value of a hexadecimal digit. -/
def hexValue? (c : Char) : Option Nat :=
  if c.isDigit then some (c.toNat - 48)
  else if 'a' ≤ c && c ≤ 'f' then some (c.toNat - 87)
  else if 'A' ≤ c && c ≤ 'F' then some (c.toNat - 55)
  else none

/-- The number spelled by a count of digits after `acc`, and the rest. -/
def scanHex? : Nat → Nat → List Char → Option (Nat × List Char)
  | 0, acc, cs => some (acc, cs)
  | _ + 1, _, [] => none
  | n + 1, acc, c :: cs =>
    match hexValue? c with
    | some v => scanHex? n (16 * acc + v) cs
    | none => none

/-- The character whose code point a count of digits spells, and the
rest. -/
def scanCodePoint? (digits : Nat) (cs : List Char) :
    Option (Char × List Char) := do
  let (n, rest) ← scanHex? digits 0 cs
  if n.isValidChar then return (Char.ofNat n, rest) else none

end PolicyWeave.Text
