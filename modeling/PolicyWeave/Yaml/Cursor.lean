/-!
# Places in a YAML text

The meaning of a YAML text depends on columns, so a place in it is the
text that is left together with its line and column.

There are three groups.

* Characters: blanks, line breaks, and those that a text may hold.
* `unifyBreaks`, which leaves one way to end a line.
* `Cursor`, a place, and the steps from one to another.
-/

namespace PolicyWeave.Yaml

/-! ## Characters -/

/-- A blank inside a line. -/
def isBlank (c : Char) : Bool := c == ' ' || c == '\t'

/-- The end of a line, once breaks are unified. -/
def isBreak (c : Char) : Bool :=
  c == '\n' || c == '\u2028' || c == '\u2029'

/-- A character that ends a word. -/
def isSpacing (c : Char) : Bool := isBlank c || isBreak c

/-- Whether a text ends here or goes on with a blank or a break. -/
def atEdge : List Char → Bool
  | [] => true
  | c :: _ => isSpacing c

/-- A character that may stand in a text. -/
def isAllowed (c : Char) : Bool :=
  let n := c.toNat
  n == 0x9 || n == 0xA || n == 0xD || (0x20 ≤ n && n ≤ 0x7E) || n == 0x85
    || (0xA0 ≤ n && n ≤ 0xD7FF) || (0xE000 ≤ n && n ≤ 0xFFFD)
    || 0x10000 ≤ n

/-- A character of a name: of an anchor, of a tag handle. -/
def isNameChar (c : Char) : Bool :=
  c.isAlphanum || c == '_' || c == '-'

/-- A text in which a carriage return, alone or before a line feed, and a
next-line character are line feeds. -/
def unifyBreaks : List Char → List Char
  | [] => []
  | '\r' :: '\n' :: rest => '\n' :: unifyBreaks rest
  | c :: rest =>
    (if c == '\r' || c == '\u0085' then '\n' else c) :: unifyBreaks rest

/-! ## Places -/

/-- A place in a text: what is left of it, and where that starts. -/
structure Cursor where
  rest : List Char
  line : Nat
  column : Nat

namespace Cursor

/-- The place a number of characters further on the line. -/
def advance (cur : Cursor) (n : Nat) : Cursor :=
  ⟨cur.rest.drop n, cur.line, cur.column + n⟩

/-- The place after the break that is next. -/
def newline (cur : Cursor) : Cursor :=
  ⟨cur.rest.drop 1, cur.line + 1, 0⟩

/-- The run of characters of a class, and the place after it.  The class
holds no breaks. -/
def takeWhile (p : Char → Bool) (cur : Cursor) : List Char × Cursor :=
  let run := cur.rest.takeWhile p
  (run, cur.advance run.length)

/-- The place after a run of characters of a class. -/
def skipWhile (p : Char → Bool) (cur : Cursor) : Cursor :=
  (cur.takeWhile p).2

/-- Whether a character of a class is next. -/
def nextIs (p : Char → Bool) (cur : Cursor) : Bool :=
  cur.rest.head?.any p

/-- The break that is next, if one is, and the place after it. -/
def takeBreak (cur : Cursor) : List Char × Cursor :=
  match cur.rest with
  | c :: _ => if isBreak c then ([c], cur.newline) else ([], cur)
  | [] => ([], cur)

/-- Whether a mark of three characters stands alone at the start of the
line. -/
def atMark (mark : Char) (cur : Cursor) : Bool :=
  cur.column == 0 && cur.rest.take 3 == [mark, mark, mark]
    && atEdge (cur.rest.drop 3)

/-- Whether the line starts or ends a document. -/
def atDocumentMark (cur : Cursor) : Bool :=
  cur.atMark '-' || cur.atMark '.'

/-- The place after the blanks and the comment that may end a line; none
if anything else comes before the break or the end. -/
def lineEnd? (cur : Cursor) : Option Cursor :=
  let cur := cur.skipWhile isBlank
  let cur :=
    if cur.nextIs (· == '#') then cur.skipWhile fun c => !isBreak c
    else cur
  if cur.rest.isEmpty || cur.nextIs isBreak then some cur.takeBreak.2
  else none

end Cursor

end PolicyWeave.Yaml
