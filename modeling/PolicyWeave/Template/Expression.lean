import PolicyWeave.Template.Compile
import PolicyWeave.Text.Literal

/-!
# Key expressions

`KeyTemplate.expression` writes a key template as a Rust expression of
type `String`.  A key of text alone is a string made from a literal.  Any
other key is a `format!` call: braces of the text are doubled, and each
field or builtin has a hole and an argument that calls a key function.
-/

namespace PolicyWeave

/-- A text without the path separators that it ends with. -/
def trimSeparators (cs : List Char) : List Char :=
  let rec go : List Char → List Char
    | ':' :: ':' :: rest => go rest
    | rest => rest
  (go cs.reverse).reverse

/-- A character of a format string, braces doubled. -/
def formatChar (c : Char) : List Char :=
  if c == '{' then ['{', '{']
  else if c == '}' then ['}', '}']
  else [c]

/-- A text inside a format string. -/
def formatChars (cs : List Char) : List Char :=
  cs.flatMap formatChar

namespace Segment

/-- What a segment adds to the format string. -/
def formatPart : Segment → List Char
  | literal s => formatChars s.toList
  | _ => ['{', '}']

/-- The operand of a key function: nothing, one reference, or a tuple of
references. -/
def operandText : List FieldPath → String
  | [] => "&[(); 0]"
  | [p] => "&" ++ p.text
  | ps =>
    "&(" ++ String.intercalate ", " (ps.map fun p => "&" ++ p.text) ++ ")"

/-- The argument that fills the hole of a segment. -/
def argument? (runtime : String) : Segment → Option String
  | literal _ => none
  | field p => some (runtime ++ "::keys::segment(&" ++ p.text ++ ")")
  | builtin _ f args =>
    some (runtime ++ "::keys::" ++ f.name ++ "(" ++ operandText args ++ ")")

/-- The text of a literal segment. -/
def literalText : Segment → String
  | literal s => s
  | _ => ""

end Segment

/-- The expression that renders the key, with key functions reached under
the given path. -/
def KeyTemplate.expression (runtimePath : String) (k : KeyTemplate) :
    String :=
  let runtime := String.ofList (trimSeparators runtimePath.toList)
  if k.isLiteral then
    "String::from("
      ++ Text.literal (String.join (k.segments.map Segment.literalText))
      ++ ")"
  else
    "format!("
      ++ Text.literal
          (String.ofList (k.segments.flatMap Segment.formatPart))
      ++ ", "
      ++ String.intercalate ", "
          (k.segments.filterMap (Segment.argument? runtime))
      ++ ")"

end PolicyWeave
