/-!
# Lines

Two ways to cut a text into lines.  `splitOn` cuts at every separator and
keeps empty pieces.  `lines` cuts at line ends: the last line need not
have one, and a carriage return before a line end belongs to it.
-/

namespace PolicyWeave.Text

/-- The pieces between separators, in order; there is always one. -/
def splitOn (sep : Char) : List Char → List (List Char)
  | [] => [[]]
  | c :: cs =>
    if c == sep then [] :: splitOn sep cs
    else
      match splitOn sep cs with
      | [] => [[c]]
      | piece :: rest => (c :: piece) :: rest

/-- A line without the carriage return that it may end with. -/
def trimReturn (line : List Char) : List Char :=
  match line.reverse with
  | '\r' :: rest => rest.reverse
  | _ => line

/-- Pieces as lines: all but the last had a line end. -/
def endLines : List (List Char) → List (List Char)
  | [] => []
  | [last] => if last.isEmpty then [] else [last]
  | piece :: rest => trimReturn piece :: endLines rest

/-- The lines of a text. -/
def lines (cs : List Char) : List (List Char) :=
  endLines (splitOn '\n' cs)

end PolicyWeave.Text
