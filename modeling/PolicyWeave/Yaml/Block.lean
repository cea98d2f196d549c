import PolicyWeave.Yaml.Cursor

/-!
# Block scalars

Text of whole lines, set off by its indentation.  A literal scalar keeps
its breaks.  A folded one joins two lines that both start without a
blank.  The header may give the indentation, which the first line with
content gives otherwise, and says what becomes of the last breaks.
-/

namespace PolicyWeave.Yaml

/-- What becomes of the breaks that end a block scalar. -/
inductive Chomp where
  | strip
  | clip
  | keep
  deriving DecidableEq, Repr

/-- The chomping indicator at the start of a text. -/
def chomp? : List Char → Option Chomp
  | '+' :: _ => some .keep
  | '-' :: _ => some .strip
  | _ => none

/-- What a header says, and its length. -/
structure BlockHeader where
  chomp : Chomp
  indentation : Option Nat
  length : Nat

/-- The header at the start of a text: a chomping indicator and a digit
for the indentation, in either order.  The digit is not zero. -/
def blockHeader? (cs : List Char) : Option BlockHeader :=
  let first := chomp? cs
  let afterFirst := if first.isSome then cs.drop 1 else cs
  match afterFirst with
  | c :: rest =>
    if c == '0' then none
    else if c.isDigit then
      let second := if first.isSome then none else chomp? rest
      let chomp := (first <|> second).getD .clip
      let marks := if (first <|> second).isSome then 1 else 0
      some ⟨chomp, some (c.toNat - 48), marks + 1⟩
    else some ⟨first.getD .clip, none, if first.isSome then 1 else 0⟩
  | [] => some ⟨first.getD .clip, none, if first.isSome then 1 else 0⟩

/-- The breaks and the indentation before the next line with content: the
breaks, the greatest column met, and the place.  The indentation ends at
the column `limit`, and a tab inside it is refused. -/
def scanIndentation? (limit : Option Nat) (greatest line column : Nat) :
    List Char → Option (List Char × Nat × Cursor)
  | [] => some ([], max greatest column, ⟨[], line, column⟩)
  | c :: cs =>
    let inside := limit.all (column < ·)
    if c == ' ' && inside then
      scanIndentation? limit greatest line (column + 1) cs
    else if c == '\t' && inside then none
    else if isBreak c then
      (scanIndentation? limit (max greatest column) (line + 1) 0 cs).map
        fun (breaks, rest) => (c :: breaks, rest)
    else some ([], max greatest column, ⟨c :: cs, line, column⟩)

/-- The breaks and the indentation from a place on. -/
def Cursor.indentation? (limit : Option Nat) (cur : Cursor) :
    Option (List Char × Nat × Cursor) :=
  scanIndentation? limit 0 cur.line cur.column cur.rest

/-- The part of a block scalar that is read: its text, the break after
that, and the empty lines behind the break. -/
structure BlockLines where
  text : List Char
  lastBreak : List Char
  emptyLines : List Char

/-- What stands between the lines read and the next one. -/
def BlockLines.joint (b : BlockLines) (fold : Bool) : List Char :=
  if fold && b.lastBreak == ['\n'] then
    if b.emptyLines.isEmpty then [' '] else b.emptyLines
  else b.lastBreak ++ b.emptyLines

/-- The lines from a place on.  A line belongs to the scalar if it is
indented to the column `indent`.  Two lines are folded if neither starts
with a blank; `blank` says whether the last one read does. -/
def scanLines? (fold : Bool) (indent : Nat) :
    Nat → BlockLines → Bool → Cursor → Option (BlockLines × Cursor)
  | 0, _, _, _ => none
  | fuel + 1, lines, blank, cur =>
    if cur.column != indent || cur.rest.isEmpty then some (lines, cur)
    else do
      let startsBlank := cur.nextIs isBlank
      let joint := lines.joint (fold && !blank && !startsBlank)
      let (line, cur) := cur.takeWhile fun c => !isBreak c
      let (lastBreak, cur) := cur.takeBreak
      let (emptyLines, _, cur) ← cur.indentation? (some indent)
      scanLines? fold indent fuel
        ⟨lines.text ++ joint ++ line, lastBreak, emptyLines⟩ startsBlank cur

/-- The text of a block scalar with its last breaks. -/
def BlockLines.chomped (b : BlockLines) : Chomp → List Char
  | .strip => b.text
  | .clip => b.text ++ b.lastBreak
  | .keep => b.text ++ b.lastBreak ++ b.emptyLines

/-- The block scalar whose indicator is at a place, and the place after
it.  It stands in a block whose content starts right of the column
`outer`, where zero stands for no block. -/
def Cursor.block? (fold : Bool) (outer : Nat) (cur : Cursor) :
    Option (String × Cursor) := do
  let cur := cur.advance 1
  let header ← blockHeader? cur.rest
  let cur ← (cur.advance header.length).lineEnd?
  let given := header.indentation.map fun n => outer - 1 + n
  let (emptyLines, greatest, cur) ← cur.indentation? given
  let indent := given.getD (max (max greatest outer) 1)
  let (lines, cur) ←
    scanLines? fold indent (cur.rest.length + 1) ⟨[], [], emptyLines⟩ false
      cur
  return (String.ofList (lines.chomped header.chomp), cur)

end PolicyWeave.Yaml
