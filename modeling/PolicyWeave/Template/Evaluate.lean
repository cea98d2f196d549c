import PolicyWeave.Template.Compile

/-!
# Evaluation of key templates

`KeyTemplate.evaluate` renders a key for given argument values.  A
parameter or field that is missing counts as null.
-/

namespace PolicyWeave

/-- Argument values by parameter name; the first of a name counts. -/
abbrev Arguments := List (String × Json)

namespace Arguments

/-- The value reached from `v` along a chain of fields. -/
def follow (v : Json) : List String → Json
  | [] => v
  | f :: rest =>
    match v.get? f with
    | some w => follow w rest
    | none => .null

/-- The value of a field path. -/
def resolve (args : Arguments) (p : FieldPath) : Json :=
  match List.lookup p.param args with
  | some v => follow v p.fields
  | none => .null

end Arguments

/-- The operand of a builtin: one value stands for itself, and any other
number of values is an array. -/
def Arguments.operand (args : Arguments) : List FieldPath → Json
  | [p] => args.resolve p
  | ps => .array (ps.map args.resolve)

/-- The text of a segment. -/
def Segment.evaluate (args : Arguments) : Segment → String
  | .literal s => s
  | .field p => (args.resolve p).segment
  | .builtin _ f ps => f.apply (args.operand ps)

/-- The texts of segments, joined. -/
def Segment.evaluateAll (args : Arguments) : List Segment → String
  | [] => ""
  | s :: rest => s.evaluate args ++ evaluateAll args rest

/-- The key for given argument values. -/
def KeyTemplate.evaluate (k : KeyTemplate) (args : Arguments) : String :=
  Segment.evaluateAll args k.segments

end PolicyWeave
