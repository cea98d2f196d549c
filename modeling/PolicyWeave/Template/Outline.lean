import PolicyWeave.Data.Outline
import PolicyWeave.Template.Compile

/-!
# Outlines of templates

What a trace shows of a template, before and after its names are
resolved.
-/

namespace PolicyWeave

/-! ## Parsed templates -/

/-- The outline of a span. -/
def Span.outline (s : Span) : Outline :=
  .record "Span" [("start", .nat s.start), ("end", .nat s.stop)]

/-- The outline of a path. -/
def Path.outline (p : Path) : Outline :=
  .record "PathExpr"
    [("root", .text p.root), ("fields", .list (p.fields.map .text)),
      ("span", p.span.outline)]

/-- The outline of a call. -/
def Call.outline (c : Call) : Outline :=
  .record "CallExpr"
    [("name", .text c.name), ("args", .list (c.args.map Path.outline)),
      ("span", c.span.outline)]

/-- The outline of an expression. -/
def Expr.outline : Expr → Outline
  | .path p => .call "Path" [p.outline]
  | .call c => .call "Call" [c.outline]

/-- The outline of a part. -/
def Part.outline : Part → Outline
  | .text s => .call "Text" [.text s]
  | .placeholder p =>
    .call "Placeholder"
      [.record "Placeholder"
        [("expr", p.expr.outline), ("span", p.span.outline)]]

/-- The outline of a template. -/
def Template.outline (t : Template) : Outline :=
  .list (t.parts.map Part.outline)

/-! ## Key templates -/

/-- The name of a key function in an outline. -/
def KeyFunction.caseName : KeyFunction → String
  | .base64Json => "Base64Json"
  | .json => "Json"
  | .sha256 => "Sha256"
  | .lower => "Lower"
  | .upper => "Upper"

/-- The outline of a field path. -/
def FieldPath.outline (p : FieldPath) : Outline :=
  .record "FieldPath"
    [("param", .text p.param), ("fields", .list (p.fields.map .text))]

/-- The outline of a segment. -/
def Segment.outline : Segment → Outline
  | .literal s => .call "Literal" [.text s]
  | .field p => .call "Field" [p.outline]
  | .builtin name f args =>
    .record "Builtin"
      [("name", .text name), ("strategy", .word f.caseName),
        ("args", .list (args.map FieldPath.outline))]

/-- The outline of the segments of a key. -/
def KeyTemplate.outline (k : KeyTemplate) : Outline :=
  .list (k.segments.map Segment.outline)

/-- The outline of the parameters that a key depends on. -/
def KeyTemplate.dependencyOutline (k : KeyTemplate) : Outline :=
  .set (k.dependencies.map .text)

end PolicyWeave
