import PolicyWeave.Number.Shortest

/-!
# Texts of floating-point values

A `Layout` holds the decisions that a text format makes about a number
whose digits are already chosen: which sizes are written with a point and
which with an exponent, whether an integer keeps `.0`, and how infinities
look.  The layouts in use are values of this type, in the modules of the
texts they belong to, except for the two that generated code and messages
share.
-/

namespace PolicyWeave.Number

/-- How a number is written.  A number of scientific exponent `x` is
written with a point when `least ≤ x ≤ greatest`, where a missing bound
admits every `x`. -/
structure Layout where
  least : Option Int
  greatest : Option Int
  keepsPoint : Bool
  exponentPlus : Bool
  tie : Tie
  nan : String
  infinity : String

/-- The digits of a number, most significant first. -/
def digitChars (n : Nat) : List Char :=
  if n < 10 then [Char.ofNat (48 + n)]
  else digitChars (n / 10) ++ [Char.ofNat (48 + n % 10)]
termination_by n

/-- The decimal text of a natural number. -/
def natText (n : Nat) : String :=
  String.ofList (digitChars n)

/-- The decimal text of an integer. -/
def intText (n : Int) : String :=
  if n < 0 then "-" ++ natText n.natAbs else natText n.natAbs

namespace Layout

/-- The decimals with a point and no exponent. -/
def positional (l : Layout) (d : Decimal) : List Char :=
  let ds := digitChars d.digits
  if 0 ≤ d.exponent then
    ds ++ List.replicate d.exponent.toNat '0'
      ++ (if l.keepsPoint then ['.', '0'] else [])
  else
    let places := (-d.exponent).toNat
    if places < ds.length then
      ds.take (ds.length - places) ++ '.' :: ds.drop (ds.length - places)
    else ['0', '.'] ++ List.replicate (places - ds.length) '0' ++ ds

/-- The decimals as one digit, a fraction if there is one, and the
exponent. -/
def scientific (l : Layout) (d : Decimal) (x : Int) : List Char :=
  let mantissa :=
    match digitChars d.digits with
    | [] => []
    | [c] => [c]
    | c :: cs => c :: '.' :: cs
  let sign := if x < 0 then ['-'] else if l.exponentPlus then ['+'] else []
  mantissa ++ 'e' :: sign ++ digitChars x.natAbs

/-- The text of a decimal above zero. -/
def ofDecimal (l : Layout) (d : Decimal) : List Char :=
  let x := d.exponent + (decimalLength d.digits : Int) - 1
  if l.least.all (· ≤ x) && l.greatest.all (x ≤ ·) then l.positional d
  else l.scientific d x

/-- The text of a value of the given format. -/
def render (l : Layout) (f : Format) : Binary → String
  | .nan => l.nan
  | .infinity s => if s then "-" ++ l.infinity else l.infinity
  | .finite s m e =>
    let body :=
      if m == 0 then if l.keepsPoint then ['0', '.', '0'] else ['0']
      else l.ofDecimal (f.shortest l.tie m e)
    String.ofList (if s then '-' :: body else body)

end Layout

/-- Numbers in generated code: a point is always there unless an exponent
is, and exponents start at `1e16` and below `0.0001`. -/
def codeLayout : Layout :=
  ⟨some (-4), some 15, true, false, .up, "NaN", "inf"⟩

/-- Numbers in messages: never an exponent, and no point in an integer. -/
def messageLayout : Layout :=
  ⟨none, none, false, false, .up, "NaN", "inf"⟩

/-- A double as generated code writes it. -/
def Binary.codeText (x : Double) : String :=
  codeLayout.render Format.double x

/-- A double as messages write it. -/
def Binary.messageText (x : Double) : String :=
  messageLayout.render Format.double x

end PolicyWeave.Number
