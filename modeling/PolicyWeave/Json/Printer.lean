import PolicyWeave.Json.Basic
import PolicyWeave.Number.Layout
import PolicyWeave.Text.Literal

/-!
# JSON text

The compact text of a value: no blanks, members in the order they have,
and strings that escape only what must be escaped.
-/

namespace PolicyWeave

open Number

/-- Numbers in JSON text: a point is always there unless an exponent is,
and exponents carry a sign. -/
def jsonLayout : Layout :=
  ⟨some (-5), some 15, true, true, .toEven, "null", "null"⟩

/-- Numbers of single precision in JSON text: the same, but exponents
start at `1e+13` and below `0.000001`. -/
def jsonSingleLayout : Layout :=
  { jsonLayout with least := some (-6), greatest := some 12 }

namespace Json

/-- One character inside a string. -/
def escapeChar (c : Char) : List Char :=
  if c == '"' then ['\\', '"']
  else if c == '\\' then ['\\', '\\']
  else if c == '\n' then ['\\', 'n']
  else if c == '\r' then ['\\', 'r']
  else if c == '\t' then ['\\', 't']
  else if c == '\x08' then ['\\', 'b']
  else if c == '\x0c' then ['\\', 'f']
  else if c.toNat < 32 then
    ['\\', 'u', '0', '0', Text.hexDigit (c.toNat / 16),
      Text.hexDigit (c.toNat % 16)]
  else [c]

/-- A string between quotes. -/
def quote (s : String) : String :=
  String.ofList ('"' :: s.toList.flatMap escapeChar ++ ['"'])

/-- The text of a number. -/
def numberText : JsonNumber → String
  | .whole n => intText n
  | .double x => jsonLayout.render Format.double x

mutual

/-- The text of a value. -/
def render : Json → String
  | .null => "null"
  | .bool b => if b then "true" else "false"
  | .number n => numberText n
  | .string s => quote s
  | .array items => "[" ++ renderItems items ++ "]"
  | .object members => "\x7b" ++ renderMembers members ++ "\x7d"

/-- Items parted by commas. -/
def renderItems : List Json → String
  | [] => ""
  | [x] => render x
  | x :: y :: rest => render x ++ "," ++ renderItems (y :: rest)

/-- Members parted by commas. -/
def renderMembers : List (String × Json) → String
  | [] => ""
  | [(k, v)] => quote k ++ ":" ++ render v
  | (k, v) :: m :: rest =>
    quote k ++ ":" ++ render v ++ "," ++ renderMembers (m :: rest)

end

end Json

end PolicyWeave
