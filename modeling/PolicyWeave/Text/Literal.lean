import PolicyWeave.Text.Classes

/-!
# String literals

`literal` writes a text between double quotes so that a Rust compiler
reads it back unchanged.  A quote, a backslash and five controls have
short escapes; every other character that would not show, or that would
join the character before it, is written by its code point.
-/

namespace PolicyWeave.Text

/-- A hexadecimal digit in lower case. -/
def hexDigit (n : Nat) : Char :=
  if n < 10 then Char.ofNat (48 + n) else Char.ofNat (87 + n)

/-- The hexadecimal digits of a number, most significant first. -/
def hexDigits (n : Nat) : List Char :=
  if n < 16 then [hexDigit n] else hexDigits (n / 16) ++ [hexDigit (n % 16)]
termination_by n

/-- One character inside a literal. -/
def escapeChar (c : Char) : List Char :=
  if c == '"' then ['\\', '"']
  else if c == '\\' then ['\\', '\\']
  else if c == '\n' then ['\\', 'n']
  else if c == '\r' then ['\\', 'r']
  else if c == '\t' then ['\\', 't']
  else if c == '\x00' then ['\\', '0']
  else if isCombining c || !isVisible c then
    ['\\', 'u', '{'] ++ hexDigits c.toNat ++ ['}']
  else [c]

/-- The literal of a text, quotes included. -/
def literalChars (cs : List Char) : List Char :=
  '"' :: cs.flatMap escapeChar ++ ['"']

/-- The literal of a text, quotes included. -/
def literal (s : String) : String :=
  String.ofList (literalChars s.toList)

end PolicyWeave.Text
