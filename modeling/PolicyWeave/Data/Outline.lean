import PolicyWeave.Number.Layout
import PolicyWeave.Text.Literal

/-!
# Outlines

An outline shows the structure of a value by the names of its parts.  It
is written on one line, by `Outline.line`, or spread over lines with four
spaces for each level, by `Outline.spread`.
-/

namespace PolicyWeave

/-- The shown structure of a value. -/
inductive Outline where
  | text (s : String)
  | word (s : String)
  | list (items : List Outline)
  | set (items : List Outline)
  | call (name : String) (args : List Outline)
  | record (name : String) (fields : List (String × Outline))

namespace Outline

/-- A natural number. -/
def nat (n : Nat) : Outline := .word (Number.natText n)

mutual

/-- The outline on one line. -/
def line : Outline → String
  | .text s => Text.literal s
  | .word s => s
  | .list items => "[" ++ lineItems items ++ "]"
  | .set items => "\x7b" ++ lineItems items ++ "\x7d"
  | .call name args => name ++ "(" ++ lineItems args ++ ")"
  | .record name fields =>
    name ++ " \x7b " ++ lineFields fields ++ " \x7d"

/-- Items parted by commas. -/
def lineItems : List Outline → String
  | [] => ""
  | [x] => x.line
  | x :: y :: rest => x.line ++ ", " ++ lineItems (y :: rest)

/-- Fields parted by commas. -/
def lineFields : List (String × Outline) → String
  | [] => ""
  | [(k, x)] => k ++ ": " ++ x.line
  | (k, x) :: f :: rest =>
    k ++ ": " ++ x.line ++ ", " ++ lineFields (f :: rest)

end

/-- The blanks in front of a line of a level. -/
def margin (level : Nat) : String :=
  String.ofList (List.replicate (4 * level) ' ')

/-- Lines between brackets, or nothing between them. -/
def bracket (level : Nat) (opening closing lines : String) : String :=
  if lines.isEmpty then opening ++ closing
  else opening ++ "\n" ++ lines ++ margin level ++ closing

mutual

/-- The outline over lines, for a value at a level. -/
def spread (level : Nat) : Outline → String
  | .text s => Text.literal s
  | .word s => s
  | .list items => bracket level "[" "]" (spreadItems (level + 1) items)
  | .set items =>
    bracket level "\x7b" "\x7d" (spreadItems (level + 1) items)
  | .call name args =>
    bracket level (name ++ "(") ")" (spreadItems (level + 1) args)
  | .record name fields =>
    bracket level (name ++ " \x7b") "\x7d" (spreadFields (level + 1) fields)

/-- A line, or more, for each item. -/
def spreadItems (level : Nat) : List Outline → String
  | [] => ""
  | x :: rest =>
    margin level ++ x.spread level ++ ",\n" ++ spreadItems level rest

/-- A line, or more, for each field. -/
def spreadFields (level : Nat) : List (String × Outline) → String
  | [] => ""
  | (k, x) :: rest =>
    margin level ++ k ++ ": " ++ x.spread level ++ ",\n"
      ++ spreadFields level rest

end

end Outline

end PolicyWeave
