import PolicyWeave.Number.Binary

/-!
# Reading decimals

`digitsValue` is the number that a run of digits spells.  `scanNumeral`
reads the numerals that the text formats share: digits, an optional
fraction and an optional exponent.  Each format adds its own rules on
signs and on which parts may be missing; `decimal?` are the usual ones.
-/

namespace PolicyWeave.Number

/-- The value of one digit. -/
def digitValue (c : Char) : Nat :=
  c.toNat - 48

/-- The number spelled by a run of digits after `acc`. -/
def digitsValueFrom (acc : Nat) : List Char → Nat
  | [] => acc
  | c :: cs => digitsValueFrom (10 * acc + digitValue c) cs

/-- The number spelled by a run of digits. -/
def digitsValue (cs : List Char) : Nat :=
  digitsValueFrom 0 cs

/-- A numeral split into its parts.  A missing point or exponent is
`none`. -/
structure Numeral where
  whole : List Char
  fraction : Option (List Char)
  exponent : Option (Bool × List Char)

/-- The digits at the start of a text, and the rest. -/
def spanDigits (cs : List Char) : List Char × List Char :=
  cs.span Char.isDigit

/-- The exponent part at the start of a text, if there is one. -/
def scanExponent (cs : List Char) :
    Option (Bool × List Char) × List Char :=
  match cs with
  | c :: cs' =>
    if c == 'e' || c == 'E' then
      let (negative, rest) :=
        match cs' with
        | '-' :: r => (true, r)
        | '+' :: r => (false, r)
        | r => (false, r)
      let (ds, rest) := spanDigits rest
      (some (negative, ds), rest)
    else (none, cs)
  | [] => (none, [])

/-- The numeral at the start of a text, and the rest. -/
def scanNumeral (cs : List Char) : Numeral × List Char :=
  let (whole, rest) := spanDigits cs
  let (fraction, rest) :=
    match rest with
    | '.' :: r => let (ds, r) := spanDigits r; (some ds, r)
    | r => (none, r)
  let (exponent, rest) := scanExponent rest
  (⟨whole, fraction, exponent⟩, rest)

namespace Numeral

/-- The digits before and after the point as one number. -/
def digits (n : Numeral) : Nat :=
  digitsValue (n.whole ++ n.fraction.getD [])

/-- The power of ten that the digits are multiplied by. -/
def scale (n : Numeral) : Int :=
  let shown : Int :=
    match n.exponent with
    | none => 0
    | some (negative, ds) =>
      let v : Int := digitsValue ds
      if negative then -v else v
  shown - ((n.fraction.getD []).length : Int)

/-- The value of a format nearest to the numeral. -/
def toBinary (f : Format) (n : Numeral) (negative : Bool) : Binary :=
  f.ofDecimal negative n.digits n.scale

/-- The double nearest to the numeral. -/
def toDouble (n : Numeral) (negative : Bool) : Double :=
  n.toBinary Format.double negative

end Numeral

/-- The value of a format that a decimal number is nearest to: an optional
sign, digits with at most one point and at least one digit, and an
optional exponent with digits. -/
def decimalIn? (f : Format) (cs : List Char) : Option Binary :=
  let (negative, body) :=
    match cs with
    | '-' :: r => (true, r)
    | '+' :: r => (false, r)
    | r => (false, r)
  let (n, rest) := scanNumeral body
  let hasDigits := !n.whole.isEmpty || !(n.fraction.getD []).isEmpty
  let goodExponent := n.exponent.all fun (_, ds) => !ds.isEmpty
  if rest.isEmpty && hasDigits && goodExponent then
    some (n.toBinary f negative)
  else none

/-- The double of a decimal number. -/
def decimal? (cs : List Char) : Option Double :=
  decimalIn? Format.double cs

end PolicyWeave.Number
