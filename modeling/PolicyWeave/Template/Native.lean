import PolicyWeave.Template.Compile
import PolicyWeave.Template.Evaluate

/-!
# Keys of native values

`KeyTemplate.renderNative` renders a key for native argument values, the
way generated code does: each segment calls its key function on the value
itself.  Values without a JSON form leave warnings.

`Arguments.store` is the way of native values into evaluation.
-/

namespace PolicyWeave

/-- The value reached from a native value along a chain of fields. -/
def Datum.follow (d : Datum) : List String → Datum
  | [] => d
  | f :: rest =>
    match d with
    | .record fields => ((fields.lookup f).getD .unit).follow rest
    | _ => .unit

/-- Native argument values by parameter name. -/
abbrev NativeArguments := List (String × Datum)

/-- The JSON value that evaluation has for a native value.  One that has
no JSON form counts as null. -/
def Datum.stored (d : Datum) : Json :=
  d.toJson.toOption.getD .null

/-- Argument values and one more, which replaces a value of its name. -/
def Arguments.store (args : Arguments) (name : String) (d : Datum) :
    Arguments :=
  (name, d.stored) :: args

namespace NativeArguments

/-- The value of a field path. -/
def resolve (args : NativeArguments) (p : FieldPath) : Datum :=
  ((List.lookup p.param args).getD .unit).follow p.fields

/-- The operand of a builtin: one value stands for itself, and any other
number of values is a sequence. -/
def operand (args : NativeArguments) : List FieldPath → Datum
  | [p] => args.resolve p
  | ps => .sequence (ps.map args.resolve)

end NativeArguments

/-- The text of a segment. -/
def Segment.renderNative (args : NativeArguments) : Segment → KeyText
  | .literal s => ⟨s, []⟩
  | .field p => (args.resolve p).segment
  | .builtin _ f ps => (args.operand ps).keyText f

/-- The key for native argument values. -/
def KeyTemplate.renderNative (k : KeyTemplate) (args : NativeArguments) :
    KeyText :=
  let pieces := k.segments.map (Segment.renderNative args)
  ⟨String.join (pieces.map KeyText.text), pieces.flatMap KeyText.warnings⟩

end PolicyWeave
