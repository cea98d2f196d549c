import PolicyWeave.Template.Token

/-!
# Templates

A template is a run of literal texts and placeholders.  A placeholder
holds a path, such as `filter.name`, or a call, such as `json(a, b.c)`.

There are two groups.

* The types, with the spans of every part.
* The canonical text, with no blanks inside placeholders but the one
  after each comma.
-/

namespace PolicyWeave

/-- A name followed by field names. -/
structure Path where
  root : String
  fields : List String
  span : Span
  deriving DecidableEq, Repr

/-- A builtin applied to paths. -/
structure Call where
  name : String
  args : List Path
  span : Span
  deriving DecidableEq, Repr

/-- What a placeholder holds. -/
inductive Expr where
  | path (p : Path)
  | call (c : Call)
  deriving DecidableEq, Repr

/-- A placeholder, with the span of its braces and all between them. -/
structure Placeholder where
  expr : Expr
  span : Span
  deriving DecidableEq, Repr

/-- A part of a template. -/
inductive Part where
  | text (s : String)
  | placeholder (p : Placeholder)
  deriving DecidableEq, Repr

/-- A template as parsed, in source order. -/
structure Template where
  parts : List Part
  deriving DecidableEq, Repr

namespace Template

/-- The placeholders in order. -/
def placeholders (t : Template) : List Placeholder :=
  t.parts.filterMap fun
    | .text _ => none
    | .placeholder p => some p

/-- Whether the template is text alone. -/
def isLiteral (t : Template) : Bool :=
  t.placeholders.isEmpty

end Template

/-! ## Canonical text -/

/-- The canonical text of a path. -/
def Path.chars (p : Path) : List Char :=
  p.root.toList ++ p.fields.flatMap fun f => '.' :: f.toList

/-- The canonical text of operands. -/
def Path.listChars : List Path → List Char
  | [] => []
  | [p] => p.chars
  | p :: q :: rest => p.chars ++ [',', ' '] ++ Path.listChars (q :: rest)

/-- The canonical text of an expression. -/
def Expr.chars : Expr → List Char
  | .path p => p.chars
  | .call c => c.name.toList ++ '(' :: Path.listChars c.args ++ [')']

/-- The canonical text of a part. -/
def Part.chars : Part → List Char
  | .text s => s.toList
  | .placeholder p => '{' :: p.expr.chars ++ ['}']

/-- The canonical text of a template. -/
def Template.chars (t : Template) : List Char :=
  t.parts.flatMap Part.chars

/-- The canonical text of a path. -/
def Path.text (p : Path) : String := String.ofList p.chars

/-- The canonical text of an expression. -/
def Expr.text (e : Expr) : String := String.ofList e.chars

/-- The canonical text of a template. -/
def Template.text (t : Template) : String := String.ofList t.chars

end PolicyWeave
