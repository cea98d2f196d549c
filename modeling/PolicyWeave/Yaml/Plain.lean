import PolicyWeave.Yaml.Cursor

/-!
# Plain scalars

Text without quotes.  It is made of words with gaps between them.  A gap
on one line keeps its blanks, and one over several lines is folded.  A
gap counts only if a word follows, so the text has no blank ends.

There are two groups.

* Gaps, which quoted text has as well.
* Words, and the scalar.
-/

namespace PolicyWeave.Yaml

/-! ## Gaps -/

/-- What a run of breaks between two words stands for: one line feed for
a space, and more of them for all but the first.  A run that starts with
another break is kept. -/
def folded : List Char → List Char
  | ['\n'] => [' ']
  | '\n' :: more => more
  | breaks => breaks

/-- The breaks up to the next word, and the place of that, from a line
and a column on.  A tab left of the column `least` is refused. -/
def scanBreaks? (least line column : Nat) :
    List Char → Option (List Char × Cursor)
  | [] => some ([], ⟨[], line, column⟩)
  | c :: cs =>
    if isBreak c then
      (scanBreaks? least (line + 1) 0 cs).map fun (breaks, cur) =>
        (c :: breaks, cur)
    else if c == '\t' && column < least then none
    else if isBlank c then scanBreaks? least line (column + 1) cs
    else some ([], ⟨c :: cs, line, column⟩)

/-- The breaks from a place on. -/
def Cursor.breaks? (least : Nat) (cur : Cursor) :
    Option (List Char × Cursor) :=
  scanBreaks? least cur.line cur.column cur.rest

/-- A gap: what it stands for, whether it runs over lines, and the place
after it. -/
def Cursor.gap? (least : Nat) (cur : Cursor) :
    Option (List Char × Bool × Cursor) :=
  let (blanks, cur) := cur.takeWhile isBlank
  if cur.nextIs isBreak then
    (cur.breaks? least).map fun (breaks, cur) => (folded breaks, true, cur)
  else some (blanks, false, cur)

/-! ## Words -/

/-- A character that ends words between brackets. -/
def isFlowIndicator (c : Char) : Bool :=
  c == ',' || c == '[' || c == ']' || c == '{' || c == '}'

/-- The word at the start of a text.  A colon ends it before a gap;
between brackets a colon before an indicator is refused. -/
def scanWord? (inFlow : Bool) : List Char → Option (List Char)
  | [] => some []
  | c :: cs =>
    if isSpacing c then some []
    else if inFlow && c == ':'
        && cs.head?.any (fun d => isFlowIndicator d || d == '?') then none
    else if c == ':' && atEdge cs || inFlow && isFlowIndicator c then
      some []
    else (scanWord? inFlow cs).map (c :: ·)

/-- The words from a place on, with the text so far, the gap before the
place, and whether that runs over lines.  Outside brackets the words of
further lines start at the column `least` or right of it. -/
def scanPlain? (inFlow : Bool) (least : Nat) :
    Nat → List Char → List Char → Bool → Cursor →
    Option (List Char × Bool × Cursor)
  | 0, _, _, _, _ => none
  | fuel + 1, text, gap, crossed, cur =>
    if cur.atDocumentMark || cur.nextIs (· == '#') then
      some (text, crossed, cur)
    else do
      let word ← scanWord? inFlow cur.rest
      if word.isEmpty then return (text, crossed, cur)
      let text := text ++ gap ++ word
      let cur := cur.advance word.length
      if !cur.nextIs isSpacing then return (text, false, cur)
      let (gap, crossed, cur) ← cur.gap? least
      if !inFlow && cur.column < least then return (text, crossed, cur)
      scanPlain? inFlow least fuel text gap crossed cur

/-- The plain scalar at a place, whether the place after it is on a line
of its own, and that place. -/
def Cursor.plain? (inFlow : Bool) (least : Nat) (cur : Cursor) :
    Option (String × Bool × Cursor) :=
  (scanPlain? inFlow least (cur.rest.length + 1) [] [] false cur).map
    fun (text, crossed, cur) => (String.ofList text, crossed, cur)

end PolicyWeave.Yaml
