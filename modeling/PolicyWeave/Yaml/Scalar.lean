import PolicyWeave.Number.Reading
import PolicyWeave.Text.Hex

/-!
# What plain text stands for

A plain scalar may be more than text: nothing, a truth value or a number.
Reading asks for one of these; writing puts quotes around every text that
could be taken for one.
-/

namespace PolicyWeave.Yaml

open Number (Double)

/-- The words for nothing. -/
def isNull (s : String) : Bool :=
  ["~", "null", "Null", "NULL"].contains s

/-- The words for truth values. -/
def isTruth (s : String) : Bool :=
  ["true", "True", "TRUE", "false", "False", "FALSE"].contains s

/-- The number of a text.  Infinities and what is no number start with a
point, behind a sign if they have one. -/
def number? (s : String) : Option Double :=
  let unsigned? : Option (List Char) :=
    match s.toList with
    | '+' :: cs =>
      if cs.head?.any (fun c => c == '+' || c == '-') then none
      else some cs
    | cs => some cs
  match unsigned? with
  | none => none
  | some cs =>
    if [".inf", ".Inf", ".INF"].contains (String.ofList cs) then
      some (.infinity false)
    else if ["-.inf", "-.Inf", "-.INF"].contains s then
      some (.infinity true)
    else if [".nan", ".NaN", ".NAN"].contains s then some .nan
    else
      (Number.decimal? cs).filter fun x =>
        match x with
        | .finite .. => true
        | _ => false

/-- The number that digits of a base spell; there has to be one. -/
def ofDigits? (base : Nat) (cs : List Char) : Option Nat :=
  if cs.isEmpty then none
  else
    cs.foldlM (fun acc c =>
      ((Text.hexValue? c).filter (· < base)).map (base * acc + ·)) 0

/-- The number of a text that starts with a zero and the letter of a
base. -/
def based? : List Char → Option Nat
  | '0' :: 'x' :: cs => ofDigits? 16 cs
  | '0' :: 'o' :: cs => ofDigits? 8 cs
  | '0' :: 'b' :: cs => ofDigits? 2 cs
  | _ => none

/-- The number of integers of 128 bits. -/
def wide : Nat := UInt64.size * UInt64.size

/-- Whether a text is an integer of 128 bits with the letter of its
base. -/
def isBased (s : String) : Bool :=
  match s.toList with
  | '-' :: cs => (based? cs).any (2 * · ≤ wide)
  | '+' :: cs => (based? cs).any (· < wide)
  | cs => (based? cs).any (· < wide)

/-- Whether a text is made of digits, the first of them a needless
zero. -/
def hasLeadingZero (s : String) : Bool :=
  let digits :=
    match s.toList with
    | '+' :: cs => cs
    | '-' :: cs => cs
    | cs => cs
  match digits with
  | '0' :: c :: cs => (c :: cs).all Char.isDigit
  | _ => false

/-- Whether a plain text could be taken for something else than a text.
Decimal integers are numbers already. -/
def isAmbiguous (s : String) : Bool :=
  s.isEmpty || isNull s || isTruth s || isBased s || hasLeadingZero s
    || (number? s).isSome

end PolicyWeave.Yaml
