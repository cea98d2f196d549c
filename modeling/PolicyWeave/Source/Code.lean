import PolicyWeave.Text.Lines

/-!
# Code as lines and blocks

There are three groups.

* The writer.  It holds the text so far and a depth; its steps write a
  line, open and close blocks, or change the depth.
* `Code`, a tree of lines and blocks.  `Code.steps` are the writer steps
  of a tree; each block opens and closes within them.
* `Writer.code` writes a tree, and `Code.text` is the text of one from
  depth zero.
-/

namespace PolicyWeave

/-! ## The writer -/

/-- The text written so far and the depth of the next line. -/
structure Writer where
  text : String
  depth : Nat
  deriving DecidableEq, Repr

/-- One step of a writer. -/
inductive WriterStep where
  | line (text : String)
  | openBlock (text : String)
  | closeBlock (text : String)
  | blank
  | indent
  | dedent
  deriving DecidableEq, Repr

namespace Writer

/-- A writer with no text, at depth zero. -/
def empty : Writer := ⟨"", 0⟩

/-- One line at a depth, with its end.  An empty line has no indent. -/
def indented (depth : Nat) (line : List Char) : List Char :=
  (if line.isEmpty then [] else List.replicate (4 * depth) ' ' ++ line)
    ++ ['\n']

/-- A text at a depth, line by line. -/
def indentedLines (depth : Nat) (text : String) : List Char :=
  (Text.splitOn '\n' text.toList).flatMap (indented depth)

/-- The writer after a text at its depth. -/
def writeLine (w : Writer) (text : String) : Writer :=
  { w with text := w.text ++ String.ofList (indentedLines w.depth text) }

/-- The writer after one step.  The depth never falls below zero. -/
def step (w : Writer) : WriterStep → Writer
  | .line text => w.writeLine text
  | .openBlock text =>
    let w := w.writeLine text
    { w with depth := w.depth + 1 }
  | .closeBlock text => { w with depth := w.depth - 1 }.writeLine text
  | .blank => { w with text := w.text ++ "\n" }
  | .indent => { w with depth := w.depth + 1 }
  | .dedent => { w with depth := w.depth - 1 }

/-- The writer after steps. -/
def run (w : Writer) (steps : List WriterStep) : Writer :=
  steps.foldl step w

end Writer

/-! ## Trees -/

/-- A piece of code: a line, an empty line, a block between two lines, or
lines one step deeper. -/
inductive Code where
  | line (text : String)
  | blank
  | block (head : String) (body : List Code) (tail : String)
  | deeper (body : List Code)
  deriving Inhabited

namespace Code

mutual

/-- The writer steps of a piece of code. -/
def steps : Code → List WriterStep
  | line text => [.line text]
  | blank => [.blank]
  | block head body tail =>
    .openBlock head :: stepsOf body ++ [.closeBlock tail]
  | deeper body => .indent :: stepsOf body ++ [.dedent]

/-- The writer steps of pieces one after another. -/
def stepsOf : List Code → List WriterStep
  | [] => []
  | c :: rest => steps c ++ stepsOf rest

end

/-- Groups of code with an empty line between each two. -/
def spaced : List (List Code) → List Code
  | [] => []
  | [c] => c
  | c :: d :: rest => c ++ blank :: spaced (d :: rest)

end Code

/-- The writer after pieces of code. -/
def Writer.code (w : Writer) (cs : List Code) : Writer :=
  w.run (Code.stepsOf cs)

/-- The text of pieces of code. -/
def Code.text (cs : List Code) : String :=
  (Writer.empty.code cs).text

end PolicyWeave
