import PolicyWeave.Number.Reading
import PolicyWeave.Text.Hex
import PolicyWeave.Yaml.Cursor
import PolicyWeave.Yaml.Token

/-!
# Names in a YAML text

There are three groups.

* The names of anchors.
* Tags: whole between angle brackets, or a handle and a suffix.  A tag is
  octets, some of them spelled by their digits, and ends before the first
  that is zero.
* Directives, which stand on lines of their own in front of a document.
-/

namespace PolicyWeave.Yaml

/-! ## Anchors -/

/-- The name of an anchor, and the rest of the text. -/
def scanAnchor? (cs : List Char) : Option (String × List Char) :=
  let name := cs.takeWhile isNameChar
  let rest := cs.drop name.length
  let closed := atEdge rest
    || rest.head?.any fun c =>
      ['?', ':', ',', ']', '}', '%', '@', '\x60'].contains c
  if !name.isEmpty && closed then some (String.ofList name, rest)
  else none

/-! ## Tags -/

/-- A character of a tag.  Commas and square brackets belong to whole
tags only. -/
def isTagChar (whole : Bool) (c : Char) : Bool :=
  isNameChar c
    || [';', '/', '?', ':', '@', '&', '=', '+', '$', '.', '!', '~', '*',
      '\'', '(', ')'].contains c
    || whole && [',', '[', ']'].contains c

/-- The octet spelled by a percent sign and two digits. -/
def scanOctet? : List Char → Option (UInt8 × List Char)
  | '%' :: rest =>
    (Text.scanHex? 2 0 rest).map fun (n, rest) => (n.toUInt8, rest)
  | _ => none

/-- A count of octets that each go on with an encoding. -/
def scanTrailing? : Nat → List Char → Option (Octets × List Char)
  | 0, cs => some ([], cs)
  | n + 1, cs => do
    let (octet, rest) ← scanOctet? cs
    if octet.toNat / 64 != 2 then none
    let (octets, rest) ← scanTrailing? n rest
    return (octet :: octets, rest)

/-- The number of octets behind one that starts an encoding. -/
def trailing? (octet : UInt8) : Option Nat :=
  let n := octet.toNat
  if n < 0x80 then some 0
  else if n / 32 == 6 then some 1
  else if n / 16 == 14 then some 2
  else if n / 8 == 30 then some 3
  else none

/-- The spelled octets of one character.  Their number is checked, and not
what they encode. -/
def scanEncoded? (cs : List Char) : Option (Octets × List Char) := do
  let (octet, rest) ← scanOctet? cs
  let (octets, rest) ← scanTrailing? (← trailing? octet) rest
  return (octet :: octets, rest)

/-- The octets of a tag with those read so far, last first, and the rest
of the text. -/
def scanTagOctets? (whole : Bool) :
    Nat → Octets → List Char → Option (Octets × List Char)
  | 0, _, _ => none
  | fuel + 1, acc, cs =>
    match cs with
    | '%' :: _ => do
      let (octets, rest) ← scanEncoded? cs
      scanTagOctets? whole fuel (octets.reverse ++ acc) rest
    | c :: rest =>
      if isTagChar whole c then
        scanTagOctets? whole fuel (c.toNat.toUInt8 :: acc) rest
      else some (acc.reverse, cs)
    | [] => some (acc.reverse, [])

/-- Octets up to the first that is zero. -/
def beforeZero (octets : Octets) : Octets :=
  octets.takeWhile (· != 0)

/-- The octets of a tag, and the rest of the text. -/
def tagOctets? (whole : Bool) (cs : List Char) :
    Option (Octets × List Char) :=
  (scanTagOctets? whole (cs.length + 1) [] cs).map fun (octets, rest) =>
    (beforeZero octets, rest)

/-- The octets of a tag of which something is written. -/
def someTagOctets? (whole : Bool) (cs : List Char) :
    Option (Octets × List Char) :=
  (tagOctets? whole cs).filter fun (_, rest) => rest.length != cs.length

/-- The tag whose exclamation mark was read, and the rest of the text.
The mark alone is a whole tag. -/
def tagName? (cs : List Char) : Option (TagName × List Char) :=
  match cs with
  | '<' :: rest => do
    match ← someTagOctets? true rest with
    | (octets, '>' :: rest) => return (.whole octets, rest)
    | _ => none
  | _ =>
    let name := cs.takeWhile isNameChar
    match cs.drop name.length with
    | '!' :: rest => do
      let (suffix, rest) ← someTagOctets? false rest
      return (.short (String.ofList ('!' :: name ++ ['!'])) suffix, rest)
    | _ => do
      let (suffix, rest) ← tagOctets? false cs
      if suffix.isEmpty then return (.whole (.ofText "!"), rest)
      return (.short "!" suffix, rest)

/-- The tag whose exclamation mark was read.  A gap ends it, and between
brackets a comma may. -/
def scanTag? (inFlow : Bool) (cs : List Char) :
    Option (TagName × List Char) :=
  (tagName? cs).filter fun (_, rest) =>
    atEdge rest || inFlow && rest.head? == some ','

/-! ## Directives -/

/-- A number of at most nine digits. -/
def scanShortNat? (cs : List Char) : Option (Nat × List Char) :=
  let (digits, rest) := Number.spanDigits cs
  if digits.isEmpty || 9 < digits.length then none
  else some (Number.digitsValue digits, rest)

/-- The version that a directive asks for. -/
def scanVersion? (cs : List Char) : Option (Token × List Char) := do
  let (major, rest) ← scanShortNat? (cs.dropWhile isBlank)
  match rest with
  | '.' :: rest =>
    let (minor, rest) ← scanShortNat? rest
    return (.version major minor, rest)
  | _ => none

/-- The name of a tag handle in a directive. -/
def scanHandleName? : List Char → Option (List Char × List Char)
  | '!' :: cs =>
    let name := cs.takeWhile isNameChar
    match cs.drop name.length with
    | '!' :: rest => some ('!' :: name ++ ['!'], rest)
    | rest => if name.isEmpty then some (['!'], rest) else none
  | _ => none

/-- The tag handle that a directive declares. -/
def scanHandle? (cs : List Char) : Option (Token × List Char) := do
  let (name, rest) ← scanHandleName? (cs.dropWhile isBlank)
  if !rest.head?.any isBlank then none
  let (expansion, rest) ← someTagOctets? true (rest.dropWhile isBlank)
  if !atEdge rest then none
  return (.handle (String.ofList name) expansion, rest)

/-- The directive whose percent sign was read, and the rest of the
text. -/
def scanDirective? (cs : List Char) : Option (Token × List Char) :=
  let name := cs.takeWhile isNameChar
  let rest := cs.drop name.length
  if !atEdge rest then none
  else if name == ['Y', 'A', 'M', 'L'] then scanVersion? rest
  else if name == ['T', 'A', 'G'] then scanHandle? rest
  else none

end PolicyWeave.Yaml
