import PolicyWeave.Contract.Basic
import PolicyWeave.Template.Builtin
import PolicyWeave.Template.Parse

/-!
# Key templates

A key template is a template whose names have been resolved for one
method: reserved names are folded into the literal text, and what is left
are fields of value parameters and builtins on them.

There are three groups.

* Resolution.  `Part.resolve` gives one part its meaning, or the error of
  the part.  A bare name is a reserved name, a parameter or a builtin, in
  this order.
* Assembly.  `Segment.merge` joins neighbouring literals and drops empty
  ones.
* `KeyTemplate.compile` runs both over all parts, so the first part that
  fails gives the error.
-/

namespace PolicyWeave

/-! ## Reserved names -/

/-- A name that stands for a text of the contract or the method. -/
inductive ReservedName where
  | package
  | interface
  | method
  deriving DecidableEq, Repr

namespace ReservedName

/-- How the name is written in templates. -/
def text : ReservedName → String
  | package => "PKG"
  | interface => "INTERFACE"
  | method => "METHOD"

/-- The name of the case. -/
def caseName : ReservedName → String
  | package => "Package"
  | interface => "Interface"
  | method => "Method"

/-- The reserved name that a text writes. -/
def ofText? (s : String) : Option ReservedName :=
  [package, interface, method].find? fun r => r.text == s

/-- What the name stands for. -/
def resolve (c : Contract) (m : Method) : ReservedName → String
  | package => c.package
  | interface => c.name
  | method => m.name

end ReservedName

/-! ## Segments -/

/-- A parameter and a chain of its fields. -/
structure FieldPath where
  param : String
  fields : List String
  deriving DecidableEq, Repr

/-- The text of a field path, as templates and generated code write
it. -/
def FieldPath.text (p : FieldPath) : String :=
  String.intercalate "." (p.param :: p.fields)

/-- A part of a key: text, a field, or a builtin on fields. -/
inductive Segment where
  | literal (s : String)
  | field (p : FieldPath)
  | builtin (name : String) (function : KeyFunction) (args : List FieldPath)
  deriving DecidableEq, Repr

namespace Segment

/-- The literal of a text in front of segments.  It joins a literal that
follows, and an empty one vanishes. -/
def consLiteral (s : String) : List Segment → List Segment
  | literal t :: rest => literal (s ++ t) :: rest
  | rest => if s.isEmpty then rest else literal s :: rest

/-- Segments with neighbouring literals joined and empty ones dropped. -/
def merge : List Segment → List Segment
  | [] => []
  | literal s :: rest => consLiteral s (merge rest)
  | seg :: rest => seg :: merge rest

/-- The parameters that a segment depends on. -/
def params : Segment → List String
  | literal _ => []
  | field p => [p.param]
  | builtin _ _ args => args.map FieldPath.param

/-- Whether the segment is text. -/
def isLiteral : Segment → Bool
  | literal _ => true
  | _ => false

end Segment

/-! ## Resolution -/

/-- The field path of an operand.  Its root must be a value parameter,
and its first field one that the parameter declares, if it declares
any. -/
def Path.resolve (m : Method) (p : Path) :
    Except TemplateError FieldPath :=
  match m.param? p.root with
  | none => .error (.unknownParameter p.root p.span.start)
  | some q =>
    if q.kind = .context then
      .error (.contextOperand q.name p.span.start)
    else
      match q.fields, p.fields.head? with
      | some known, some first =>
        if known.contains first then .ok ⟨q.name, p.fields⟩
        else .error (.unknownField q.name first p.span.start)
      | _, _ => .ok ⟨q.name, p.fields⟩

/-- The field paths of operands, up to the first that fails. -/
def Path.resolveAll (m : Method) :
    List Path → Except TemplateError (List FieldPath)
  | [] => .ok []
  | p :: rest =>
    match p.resolve m with
    | .error e => .error e
    | .ok q =>
      match resolveAll m rest with
      | .error e => .error e
      | .ok qs => .ok (q :: qs)

/-- The segment of a call. -/
def Call.resolve (table : BuiltinTable) (m : Method) (c : Call) :
    Except TemplateError Segment :=
  match table.get? c.name with
  | none => .error (.unknownBuiltin c.name c.span.start)
  | some b =>
    if !b.arity.accepts c.args.length then
      .error (.wrongArity c.name b.arity.describe c.args.length
        c.span.start)
    else if c.args.isEmpty && b.arity.isVariadic then
      .ok (.builtin c.name b.function
        (m.valueParams.map fun p => ⟨p.name, []⟩))
    else
      match Path.resolveAll m c.args with
      | .error e => .error e
      | .ok args => .ok (.builtin c.name b.function args)

/-- The segment of a path that stands alone in its placeholder. -/
def Path.resolveBare (table : BuiltinTable) (c : Contract) (m : Method)
    (p : Path) : Except TemplateError Segment :=
  match ReservedName.ofText? p.root with
  | some r =>
    match p.fields.head? with
    | some f => .error (.unknownField p.root f p.span.start)
    | none => .ok (.literal (r.resolve c m))
  | none =>
    if (m.param? p.root).isSome then
      match p.resolve m with
      | .error e => .error e
      | .ok q => .ok (.field q)
    else if p.fields.isEmpty && table.contains p.root then
      Call.resolve table m ⟨p.root, [], p.span⟩
    else .error (.unknownParameter p.root p.span.start)

/-- The segment of a part. -/
def Part.resolve (table : BuiltinTable) (c : Contract) (m : Method) :
    Part → Except TemplateError Segment
  | .text s => .ok (.literal s)
  | .placeholder ⟨.call call, _⟩ => call.resolve table m
  | .placeholder ⟨.path path, _⟩ => path.resolveBare table c m

/-- The segments of parts, up to the first that fails. -/
def Part.resolveAll (table : BuiltinTable) (c : Contract) (m : Method) :
    List Part → Except TemplateError (List Segment)
  | [] => .ok []
  | p :: rest =>
    match p.resolve table c m with
    | .error e => .error e
    | .ok s =>
      match resolveAll table c m rest with
      | .error e => .error e
      | .ok ss => .ok (s :: ss)

/-! ## Key templates -/

/-- A template compiled for one method. -/
structure KeyTemplate where
  source : String
  segments : List Segment
  deriving DecidableEq, Repr

/-- A sorted list of names with one more, which is there only once. -/
def insertName (name : String) : List String → List String
  | [] => [name]
  | n :: rest =>
    if name < n then name :: n :: rest
    else if name == n then n :: rest
    else n :: insertName name rest

namespace KeyTemplate

/-- The parameters that the key depends on, sorted. -/
def dependencies (k : KeyTemplate) : List String :=
  (k.segments.flatMap Segment.params).foldr insertName []

/-- Whether the key is text alone. -/
def isLiteral (k : KeyTemplate) : Bool :=
  k.segments.all Segment.isLiteral

/-- The key template of a parsed template. -/
def ofTemplate (table : BuiltinTable) (c : Contract) (m : Method)
    (source : String) (t : Template) : Except TemplateError KeyTemplate :=
  (Part.resolveAll table c m t.parts).map fun ss =>
    ⟨source, Segment.merge ss⟩

/-- The key template of a text. -/
def compile (table : BuiltinTable) (c : Contract) (m : Method)
    (source : String) : Except TemplateError KeyTemplate :=
  match Template.parse source with
  | .error e => .error e
  | .ok t => ofTemplate table c m source t

/-- The event of a template compiled for a method. -/
def compiledEvent (c : Contract) (m : Method) (k : KeyTemplate) : Event :=
  Event.of .debug "compiled key template"
    [("contract", c.name), ("method", m.name), ("template", k.source),
      ("segments", Number.natText k.segments.length)]

end KeyTemplate

end PolicyWeave
