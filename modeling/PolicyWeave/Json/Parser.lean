import PolicyWeave.Json.Basic
import PolicyWeave.Number.Reading
import PolicyWeave.Text.Hex

/-!
# Reading JSON

A parser for JSON text over characters.  Each step answers a value and
the text after it.  The fuel is the length of the text, and every step
takes at least one character, so it never runs out on the way.
-/

namespace PolicyWeave

open Number

namespace Json

/-- The text after blanks. -/
def skipBlank : List Char → List Char :=
  List.dropWhile fun c => c == ' ' || c == '\n' || c == '\r' || c == '\t'

/-- The character of an escape by code units.  A high surrogate needs a
low one after it. -/
def scanUnicode? (cs : List Char) : Option (Char × List Char) := do
  let (u, rest) ← Text.scanHex? 4 0 cs
  if 0xD800 ≤ u && u < 0xDC00 then
    match rest with
    | '\\' :: 'u' :: more =>
      let (v, rest) ← Text.scanHex? 4 0 more
      if 0xDC00 ≤ v && v < 0xE000 then
        return (Char.ofNat (0x10000 + (u - 0xD800) * 0x400 + (v - 0xDC00)),
          rest)
      else none
    | _ => none
  else if 0xDC00 ≤ u && u < 0xE000 then none
  else return (Char.ofNat u, rest)

/-- The rest of a string after its opening quote, with the characters
read so far, last first. -/
def scanString? : Nat → List Char → List Char → Option (String × List Char)
  | 0, _, _ => none
  | _, _, [] => none
  | fuel + 1, acc, c :: cs =>
    if c == '"' then some (String.ofList acc.reverse, cs)
    else if c == '\\' then
      match cs with
      | 'u' :: rest => do
        let (d, rest) ← scanUnicode? rest
        scanString? fuel (d :: acc) rest
      | e :: rest =>
        let plain : Option Char :=
          match e with
          | '"' => some '"'
          | '\\' => some '\\'
          | '/' => some '/'
          | 'b' => some '\x08'
          | 'f' => some '\x0c'
          | 'n' => some '\n'
          | 'r' => some '\r'
          | 't' => some '\t'
          | _ => none
        match plain with
        | some d => scanString? fuel (d :: acc) rest
        | none => none
      | [] => none
    else if c.toNat < 32 then none
    else scanString? fuel (c :: acc) cs

/-- The number of a numeral: an integer that fits, or else a double. -/
def numberOf? (negative : Bool) (n : Numeral) : Option Json :=
  let leadingZero := n.whole.length > 1 && n.whole.head? == some '0'
  let emptyPart := n.whole.isEmpty || n.fraction == some []
    || n.exponent.any fun (_, ds) => ds.isEmpty
  if leadingZero || emptyPart then none
  else if n.fraction.isNone && n.exponent.isNone then
    let v : Int := digitsValue n.whole
    let v := if negative then -v else v
    if JsonNumber.fits v && !(negative && v == 0) then
      some (.number (.whole v))
    else ofDouble? (n.toDouble negative)
  else ofDouble? (n.toDouble negative)

/-- The text after a word. -/
def expectWord? (word : String) (cs : List Char) : Option (List Char) :=
  if word.toList.isPrefixOf cs then some (cs.drop word.length) else none

mutual

/-- The value at the start of a text, after blanks. -/
def scanValue? : Nat → List Char → Option (Json × List Char)
  | 0, _ => none
  | fuel + 1, cs =>
    match skipBlank cs with
    | [] => none
    | '"' :: rest => do
      let (s, rest) ← scanString? (fuel + 1) [] rest
      return (.string s, rest)
    | '[' :: rest =>
      match skipBlank rest with
      | ']' :: rest => some (.array [], rest)
      | rest => do
        let (items, rest) ← scanItems? fuel [] rest
        return (.array items, rest)
    | '\x7b' :: rest =>
      match skipBlank rest with
      | '\x7d' :: rest => some (.object [], rest)
      | rest => do
        let (members, rest) ← scanMembers? fuel [] rest
        return (ofMembers members, rest)
    | 't' :: rest =>
      (expectWord? "rue" rest).map fun rest => (.bool true, rest)
    | 'f' :: rest =>
      (expectWord? "alse" rest).map fun rest => (.bool false, rest)
    | 'n' :: rest =>
      (expectWord? "ull" rest).map fun rest => (.null, rest)
    | '-' :: rest =>
      let (n, rest) := scanNumeral rest
      (numberOf? true n).map fun v => (v, rest)
    | rest =>
      let (n, rest) := scanNumeral rest
      (numberOf? false n).map fun v => (v, rest)

/-- The items up to the end of an array, with those read so far, last
first. -/
def scanItems? : Nat → List Json → List Char →
    Option (List Json × List Char)
  | 0, _, _ => none
  | fuel + 1, acc, cs => do
    let (v, rest) ← scanValue? fuel cs
    match skipBlank rest with
    | ',' :: rest => scanItems? fuel (v :: acc) rest
    | ']' :: rest => some ((v :: acc).reverse, rest)
    | _ => none

/-- The members up to the end of an object, with those read so far, last
first. -/
def scanMembers? : Nat → List (String × Json) → List Char →
    Option (List (String × Json) × List Char)
  | 0, _, _ => none
  | fuel + 1, acc, cs =>
    match skipBlank cs with
    | '"' :: rest => do
      let (k, rest) ← scanString? (fuel + 1) [] rest
      match skipBlank rest with
      | ':' :: rest => do
        let (v, rest) ← scanValue? fuel rest
        match skipBlank rest with
        | ',' :: rest => scanMembers? fuel ((k, v) :: acc) rest
        | '\x7d' :: rest => some (((k, v) :: acc).reverse, rest)
        | _ => none
      | _ => none
    | _ => none

end

/-- The value that a whole text spells. -/
def parse? (s : String) : Option Json := do
  let cs := s.toList
  let (v, rest) ← scanValue? (2 * cs.length + 2) cs
  if (skipBlank rest).isEmpty then some v else none

end Json

end PolicyWeave
