import PolicyWeave.Text.Hex
import PolicyWeave.Yaml.Plain

/-!
# Quoted scalars

Text between quotes.  Its lines are folded as those of plain text are.
In single quotes a doubled quote stands for one.  In double quotes a
backslash starts an escape; before a break it joins two lines.
-/

namespace PolicyWeave.Yaml

/-- The characters that one letter after a backslash stands for. -/
def letterEscape? (c : Char) : Option Char :=
  if c == '0' then some '\x00'
  else if c == 'a' then some '\x07'
  else if c == 'b' then some '\x08'
  else if c == 't' || c == '\t' then some '\t'
  else if c == 'n' then some '\n'
  else if c == 'v' then some '\x0b'
  else if c == 'f' then some '\x0c'
  else if c == 'r' then some '\r'
  else if c == 'e' then some '\x1b'
  else if c == ' ' || c == '"' || c == '/' || c == '\\' then some c
  else if c == 'N' then some '\u0085'
  else if c == '_' then some '\u00a0'
  else if c == 'L' then some '\u2028'
  else if c == 'P' then some '\u2029'
  else none

/-- The character of an escape after its backslash, and the length of
what spells it. -/
def escape? : List Char → Option (Char × Nat)
  | [] => none
  | c :: cs =>
    let coded := fun digits =>
      (Text.scanCodePoint? digits cs).map fun (d, _) => (d, digits + 1)
    if c == 'x' then coded 2
    else if c == 'u' then coded 4
    else if c == 'U' then coded 8
    else (letterEscape? c).map fun d => (d, 1)

/-- The text up to the next gap or quote in single quotes, last character
first, and the place after it. -/
def scanSingle : Nat → List Char → Cursor → List Char × Cursor
  | 0, text, cur => (text, cur)
  | fuel + 1, text, cur =>
    match cur.rest with
    | '\'' :: '\'' :: _ => scanSingle fuel ('\'' :: text) (cur.advance 2)
    | c :: _ =>
      if c == '\'' || isSpacing c then (text, cur)
      else scanSingle fuel (c :: text) (cur.advance 1)
    | [] => (text, cur)

/-- The text up to the next gap or quote in double quotes, last character
first, whether an escaped break ended it, and the place after it. -/
def scanDouble? : Nat → List Char → Cursor →
    Option (List Char × Bool × Cursor)
  | 0, _, _ => none
  | fuel + 1, text, cur =>
    match cur.rest with
    | '\\' :: cs =>
      if (cs.head?.any isBreak) then
        some (text, true, (cur.advance 1).newline)
      else do
        let (c, length) ← escape? cs
        scanDouble? fuel (c :: text) (cur.advance (length + 1))
    | c :: _ =>
      if c == '"' || isSpacing c then some (text, false, cur)
      else scanDouble? fuel (c :: text) (cur.advance 1)
    | [] => some (text, false, cur)

/-- The text up to the closing quote, with the text so far. -/
def scanQuoted? (quote : Char) :
    Nat → List Char → Cursor → Option (List Char × Cursor)
  | 0, _, _ => none
  | fuel + 1, text, cur =>
    if cur.atDocumentMark || cur.rest.isEmpty then none
    else do
      let length := cur.rest.length + 1
      let (word, joined, cur) ←
        if quote == '"' then scanDouble? length [] cur
        else
          let (word, cur) := scanSingle length [] cur
          some (word, false, cur)
      let text := text ++ word.reverse
      if cur.nextIs (· == quote) then return (text, cur.advance 1)
      if joined then
        let (breaks, cur) ← cur.breaks? 0
        scanQuoted? quote fuel (text ++ breaks) cur
      else
        let (gap, _, cur) ← cur.gap? 0
        scanQuoted? quote fuel (text ++ gap) cur

/-- The scalar that starts with a quote at a place, and the place after
it. -/
def Cursor.quoted? (quote : Char) (cur : Cursor) :
    Option (String × Cursor) :=
  (scanQuoted? quote (cur.rest.length + 1) [] (cur.advance 1)).map
    fun (text, cur) => (String.ofList text, cur)

end PolicyWeave.Yaml
