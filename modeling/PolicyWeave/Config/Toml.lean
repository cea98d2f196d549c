import PolicyWeave.Config.Basic
import PolicyWeave.Json.Parser

/-!
# Configuration texts

A configuration is written in TOML, one setting a line.  Every setting is
a text or a truth value and stands at the top, so tables, lists, numbers
and dates have no place in a configuration: a text that holds any of them
is refused, whether or not it is good TOML.

There are four groups.

* Characters, blanks and line ends.
* Strings: basic and literal ones, on one line or on several.
* Keys, values and lines.
* `Config.ofToml?`, the configuration of a whole text, and
  `Config.fromToml`, which also checks its settings.

The fuel of each loop is the length of the text, and every turn takes at
least one character.
-/

namespace PolicyWeave

namespace Toml

/-! ## Characters -/

/-- A blank inside a line. -/
def isBlank (c : Char) : Bool := c == ' ' || c == '\t'

/-- The text after blanks. -/
def skipBlank : List Char → List Char := List.dropWhile isBlank

/-- A character that comments and strings may hold: no control but the
tab. -/
def isPlain (c : Char) : Bool :=
  c == '\t' || (32 ≤ c.toNat && c.toNat != 127)

/-- The text after a line end. -/
def newline? : List Char → Option (List Char)
  | '\n' :: rest => some rest
  | '\r' :: '\n' :: rest => some rest
  | _ => none

/-- The text without the line end that it may start with. -/
def dropNewline (cs : List Char) : List Char := (newline? cs).getD cs

/-- The text after blanks and line ends. -/
def skipLines : Nat → List Char → List Char
  | 0, cs => cs
  | fuel + 1, cs =>
    match newline? cs with
    | some rest => skipLines fuel rest
    | none =>
      match cs with
      | c :: rest => if isBlank c then skipLines fuel rest else cs
      | [] => []

/-! ## Strings -/

/-- The character of an escape, after its backslash. -/
def scanEscape? : List Char → Option (Char × List Char)
  | 'b' :: rest => some ('\x08', rest)
  | 't' :: rest => some ('\t', rest)
  | 'n' :: rest => some ('\n', rest)
  | 'f' :: rest => some ('\x0c', rest)
  | 'r' :: rest => some ('\r', rest)
  | '"' :: rest => some ('"', rest)
  | '\\' :: rest => some ('\\', rest)
  | 'u' :: rest => Text.scanCodePoint? 4 rest
  | 'U' :: rest => Text.scanCodePoint? 8 rest
  | _ => none

/-- The string up to its closing quote, with the characters read so far,
last first. -/
def basic? : Nat → List Char → List Char → Option (String × List Char)
  | 0, _, _ => none
  | _, _, [] => none
  | fuel + 1, acc, c :: cs =>
    if c == '"' then some (String.ofList acc.reverse, cs)
    else if c == '\\' then
      match scanEscape? cs with
      | some (d, rest) => basic? fuel (d :: acc) rest
      | none => none
    else if isPlain c then basic? fuel (c :: acc) cs
    else none

/-- The literal string up to its closing quote. -/
def literal? (cs : List Char) : Option (String × List Char) :=
  let body := cs.takeWhile fun c => c != '\'' && isPlain c
  match cs.drop body.length with
  | '\'' :: rest => some (String.ofList body, rest)
  | _ => none

/-- The text after a line end that is escaped, with the blanks and lines
behind it. -/
def escapedNewline? (cs : List Char) : Option (List Char) :=
  (newline? (skipBlank cs)).map fun rest => skipLines rest.length rest

/-- A string on several lines, up to the three quotes that close it.  Up
to two more quotes in front of those belong to the string. -/
def multiline? (quote : Char) (escapes : Bool) :
    Nat → List Char → List Char → Option (String × List Char)
  | 0, _, _ => none
  | _, _, [] => none
  | fuel + 1, acc, c :: cs =>
    if c == quote then
      let run := min 5 ((c :: cs).takeWhile (· == quote)).length
      let rest := (c :: cs).drop run
      if 3 ≤ run then
        let kept := List.replicate (run - 3) quote ++ acc
        some (String.ofList kept.reverse, rest)
      else
        multiline? quote escapes fuel (List.replicate run quote ++ acc) rest
    else if escapes && c == '\\' then
      match escapedNewline? cs with
      | some rest => multiline? quote escapes fuel acc rest
      | none =>
        match scanEscape? cs with
        | some (d, rest) => multiline? quote escapes fuel (d :: acc) rest
        | none => none
    else
      match newline? (c :: cs) with
      | some rest => multiline? quote escapes fuel ('\n' :: acc) rest
      | none =>
        if isPlain c then multiline? quote escapes fuel (c :: acc) cs
        else none

/-! ## Lines -/

/-- A character of a bare key. -/
def isKeyChar (c : Char) : Bool :=
  c.isAlphanum || c == '_' || c == '-'

/-- The key at the start of a line. -/
def key? (cs : List Char) : Option (String × List Char) :=
  match cs with
  | '"' :: rest => basic? (rest.length + 1) [] rest
  | '\'' :: rest => literal? rest
  | _ =>
    let name := cs.takeWhile isKeyChar
    if name.isEmpty then none
    else some (String.ofList name, cs.drop name.length)

/-- The text or the truth value at the start of a text. -/
def value? (cs : List Char) : Option (Json × List Char) :=
  let fuel := cs.length + 1
  let text := fun (r : String × List Char) => (Json.string r.1, r.2)
  match cs with
  | '"' :: '"' :: '"' :: rest =>
    (multiline? '"' true fuel [] (dropNewline rest)).map text
  | '"' :: rest => (basic? fuel [] rest).map text
  | '\'' :: '\'' :: '\'' :: rest =>
    (multiline? '\'' false fuel [] (dropNewline rest)).map text
  | '\'' :: rest => (literal? rest).map text
  | 't' :: 'r' :: 'u' :: 'e' :: rest => some (.bool true, rest)
  | 'f' :: 'a' :: 'l' :: 's' :: 'e' :: rest => some (.bool false, rest)
  | _ => none

/-- A key, an equals sign and a value. -/
def setting? (cs : List Char) :
    Option ((String × Json) × List Char) := do
  let (key, rest) ← key? cs
  match skipBlank rest with
  | '=' :: rest =>
    let (value, rest) ← value? (skipBlank rest)
    return ((key, value), rest)
  | _ => none

/-- The text after the end of a line, which may hold a comment.  The last
line ends with the text. -/
def lineEnd? (cs : List Char) : Option (List Char) :=
  let cs := skipBlank cs
  let cs :=
    match cs with
    | '#' :: rest => rest.dropWhile isPlain
    | _ => cs
  if cs.isEmpty then some [] else newline? cs

/-- The settings of the lines of a text. -/
def settings? : Nat → List Char → Option (List (String × Json))
  | _, [] => some []
  | 0, _ => none
  | fuel + 1, cs =>
    let cs := skipBlank cs
    match lineEnd? cs with
    | some rest => settings? fuel rest
    | none => do
      let (setting, rest) ← setting? cs
      let rest ← lineEnd? rest
      let settings ← settings? fuel rest
      return setting :: settings

/-- Whether no name comes twice. -/
def distinct : List (String × Json) → Bool
  | [] => true
  | (k, _) :: rest => !(rest.any fun m => m.1 == k) && distinct rest

/-- The settings of a text, which may start with a byte order mark. -/
def read? (s : String) : Option (List (String × Json)) := do
  let cs :=
    match s.toList with
    | '\uFEFF' :: rest => rest
    | cs => cs
  let settings ← settings? (cs.length + 1) cs
  if distinct settings then some settings else none

end Toml

namespace Config

/-- The configuration of a text. -/
def ofToml? (s : String) : Option Config :=
  (Toml.read? s).bind fun settings => ofJson? (Json.ofMembers settings)

/-- The configuration of a text, with its settings checked. -/
def fromToml (s : String) : Except ConfigError Config :=
  match ofToml? s with
  | none => .error (.tomlParse "")
  | some c =>
    match c.fault? with
    | some e => .error e
    | none => .ok c

end Config

end PolicyWeave
