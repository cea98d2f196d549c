import PolicyWeave.Number.Layout
import PolicyWeave.Text.Literal
import PolicyWeave.Yaml.Cursor
import PolicyWeave.Yaml.Scalar
import PolicyWeave.Yaml.Token

/-!
# YAML text

A `Tree` is what a program has to write: texts, numbers, lists and
records.  It is written as blocks, two columns deeper for every record.
The items of a list start at the column of the key in front of them.

There are three groups.

* `Tree`, and the texts of numbers.
* The style of a text and its written form.  A text is plain if it reads
  back as itself; else it has single quotes, or double quotes if something
  has to be escaped; a text of several lines is literal.
* `Tree.render`, the whole text.
-/

namespace PolicyWeave.Yaml

open Number (Double Layout)

/-! ## Trees -/

/-- A value to be written.  The names of a record are words. -/
inductive Tree where
  | text (s : String)
  | number (x : Double)
  | list (items : List Tree)
  | record (members : List (String × Tree))

/-- Numbers in YAML: a point is always there unless an exponent is. -/
def numberLayout : Layout :=
  ⟨some (-5), some 15, true, false, .toEven, ".nan", ".inf"⟩

/-- The text of a number. -/
def numberText (x : Double) : String :=
  numberLayout.render Number.Format.double x

/-! ## Styles -/

/-- A character that can be written without an escape. -/
def isPrintable (c : Char) : Bool :=
  let n := c.toNat
  n == 0xA || (0x20 ≤ n && n ≤ 0x7E) || (0xA0 ≤ n && n ≤ 0xD7FF)
    || (0xE000 ≤ n && n ≤ 0xFFFD && n != 0xFEFF) || 0x10000 ≤ n

/-- Whether two characters that stand side by side are of two classes. -/
def hasPair (p q : Char → Bool) (cs : List Char) : Bool :=
  (cs.zip (cs.drop 1)).any fun (c, d) => p c && q d

/-- Whether a colon ends a word. -/
def hasKeyMark : List Char → Bool
  | [] => false
  | c :: cs => c == ':' && atEdge cs || hasKeyMark cs

/-- Whether a text starts as something else than plain text. -/
def startsIndicator : List Char → Bool
  | [] => true
  | c :: cs =>
    ['#', ',', '[', ']', '{', '}', '&', '*', '!', '|', '>', '\'', '"', '%',
      '@', '\x60'].contains c
      || (c == '?' || c == '-') && atEdge cs
      || (c :: cs).take 3 == ['-', '-', '-']
      || (c :: cs).take 3 == ['.', '.', '.']

/-- Whether a text is one line of plain words. -/
def isPlain (cs : List Char) : Bool :=
  cs.all (fun c => isPrintable c && !isBreak c)
    && cs.head? != some ' ' && cs.getLast? != some ' '
    && !startsIndicator cs && !hasKeyMark cs
    && !hasPair isSpacing (· == '#') cs

/-- The style in which a text is written. -/
def styleOf (s : String) : ScalarStyle :=
  let cs := s.toList
  let special := !cs.all isPrintable || hasPair (· == ' ') isBreak cs
  if cs.contains '\n' then
    if special || cs.getLast? == some ' ' then .doubleQuoted else .literal
  else if !isAmbiguous s && isPlain cs then .plain
  else if special || hasPair isBreak (· == ' ') cs then .doubleQuoted
  else .singleQuoted

/-! ## Written texts -/

/-- Spaces up to a column. -/
def margin (column : Nat) : List Char := List.replicate column ' '

/-- Lines at a column, where `fresh` says that one starts here.  The flag
that comes with them says whether one would start after them. -/
def setLines (column : Nat) (put : Char → List Char) :
    Bool → List Char → List Char × Bool
  | fresh, [] => ([], fresh)
  | fresh, c :: cs =>
    if isBreak c then
      let (rest, fresh) := setLines column put true cs
      (c :: rest, fresh)
    else
      let (rest, after) := setLines column put false cs
      ((if fresh then margin column else []) ++ put c ++ rest, after)

/-- A text in single quotes.  A quote is doubled. -/
def singleQuoted (column : Nat) (cs : List Char) : List Char :=
  let put := fun c => if c == '\'' then ['\'', '\''] else [c]
  let (body, fresh) := setLines column put false cs
  '\'' :: body ++ (if fresh then margin column else []) ++ ['\'']

/-- The digits of a code point, in capitals. -/
def hexDigits (count n : Nat) : List Char :=
  match count with
  | 0 => []
  | count + 1 =>
    hexDigits count (n / 16) ++ [(Text.hexDigit (n % 16)).toUpper]

/-- The letter that a backslash goes before, for a character that has
one. -/
def letterOf? (c : Char) : Option Char :=
  [('\x00', '0'), ('\x07', 'a'), ('\x08', 'b'), ('\t', 't'), ('\n', 'n'),
    ('\x0b', 'v'), ('\x0c', 'f'), ('\r', 'r'), ('\x1b', 'e'), ('"', '"'),
    ('\\', '\\'), ('\u0085', 'N'), ('\u2028', 'L'),
    ('\u2029', 'P')].lookup c

/-- A character in double quotes. -/
def escaped (c : Char) : List Char :=
  match letterOf? c with
  | some letter => ['\\', letter]
  | none =>
    let n := c.toNat
    if isPrintable c then [c]
    else if n < 0x100 then ['\\', 'x'] ++ hexDigits 2 n
    else if n < 0x10000 then ['\\', 'u'] ++ hexDigits 4 n
    else ['\\', 'U'] ++ hexDigits 8 n

/-- The header of a literal text: the indentation, if the text starts with
a blank or a break, and what to do with the breaks at its end. -/
def literalHeader (cs : List Char) : List Char :=
  let indentation :=
    if cs.head?.any fun c => c == ' ' || isBreak c then ['2'] else []
  let chomp :=
    match cs.reverse with
    | [] => ['-']
    | last :: others =>
      if !isBreak last then ['-']
      else if others.head?.all isBreak then ['+']
      else []
  '|' :: indentation ++ chomp

/-- A text as lines of their own. -/
def literal (column : Nat) (cs : List Char) : List Char :=
  let (body, fresh) := setLines column (fun c => [c]) true cs
  literalHeader cs ++ '\n' :: body ++ (if fresh then [] else ['\n'])

/-- A text and the end of its last line.  Its further lines start at the
given column. -/
def textLines (column : Nat) (s : String) : String :=
  let cs := s.toList
  String.ofList <|
    match styleOf s with
    | .singleQuoted => singleQuoted column cs ++ ['\n']
    | .doubleQuoted => '"' :: cs.flatMap escaped ++ ['"', '\n']
    | .literal => literal column cs
    | _ => cs ++ ['\n']

/-! ## Whole texts -/

/-- Spaces up to a column, as a text. -/
def indentation (column : Nat) : String := String.ofList (margin column)

namespace Tree

mutual

/-- What follows a key and its colon, in a record at a column. -/
def behindKey (column : Nat) : Tree → String
  | .text s => " " ++ textLines (column + 2) s
  | .number x => " " ++ numberText x ++ "\n"
  | .list [] => " []\n"
  | .list items => "\n" ++ itemLines column items
  | .record [] => " \x7b\x7d\n"
  | .record members => "\n" ++ memberLines (column + 2) members

/-- What follows a dash, in a list at a column.  A list or a record
starts on the line of the dash. -/
def behindDash (column : Nat) : Tree → String
  | .text s => " " ++ textLines (column + 2) s
  | .number x => " " ++ numberText x ++ "\n"
  | .list [] => " []\n"
  | .list (v :: items) =>
    " -" ++ behindDash (column + 2) v ++ itemLines (column + 2) items
  | .record [] => " \x7b\x7d\n"
  | .record ((k, v) :: members) =>
    " " ++ k ++ ":" ++ behindKey (column + 2) v
      ++ memberLines (column + 2) members

/-- The items of a list at a column. -/
def itemLines (column : Nat) : List Tree → String
  | [] => ""
  | v :: items =>
    indentation column ++ "-" ++ behindDash column v
      ++ itemLines column items

/-- The members of a record at a column. -/
def memberLines (column : Nat) : List (String × Tree) → String
  | [] => ""
  | (k, v) :: members =>
    indentation column ++ k ++ ":" ++ behindKey column v
      ++ memberLines column members

end

/-- The text of a value. -/
def render : Tree → String
  | .text s => textLines 2 s
  | .number x => numberText x ++ "\n"
  | .list [] => "[]\n"
  | .list items => itemLines 0 items
  | .record [] => "\x7b\x7d\n"
  | .record members => memberLines 0 members

end Tree

end PolicyWeave.Yaml
