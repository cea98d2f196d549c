import PolicyWeave.Plan
import PolicyWeave.Source.Code
import PolicyWeave.Source.Names
import PolicyWeave.Template.Expression

/-!
# Method bodies

A body is a run of bindings and a closing expression.  Bodies are built
as data and written last, so that what a name stands for can be followed
through the bindings.

There are three groups.

* `Binding`, `Tail` and `Body`.
* The bodies: `cacheBody` of a caching decorator, `traceBody` of a
  tracing one.  A method without the policy at hand forwards its call.
* The text of bindings and bodies, with the path of the runtime support.
-/

namespace PolicyWeave

/-! ## Bodies as data -/

/-- What a binding is bound to. -/
inductive BoundValue where
  | key (k : KeyTemplate)
  | keys (ks : List KeyTemplate)
  | innerField
  | sharedCopy (name : String)
  | ownedCopy (name : String)
  | clone (name : String)
  | forwardedCall (method : String) (args : List String)
  | span (name : String) (attributes : List String)

/-- One binding of a name. -/
structure Binding where
  name : String
  value : BoundValue

/-- An argument of the inner call: a name, given away or shared. -/
structure Argument where
  name : String
  passing : Passing
  deriving DecidableEq

/-- The expression that a body ends with. -/
inductive Tail where
  | forward (method : String) (args : List String)
  | evictOnSuccess (label : String)
  | traced (method : String) (args : List String)
  | populate (settings : String) (evicting : Bool) (loader : List Binding)
      (method : String) (args : List Argument)

/-- The body of a method. -/
structure Body where
  bindings : List Binding
  tail : Tail

/-! ## The bodies of decorators -/

/-- The body that hands every parameter on unchanged. -/
def forwardBody (m : Method) : Body :=
  ⟨[], .forward m.name (m.params.map Param.name)⟩

/-- The bindings that keep the parameters for a loader that may run again
later: each parameter taken by reference is copied. -/
def capturedParams (m : Method) : List Binding :=
  (m.params.filter fun p => Passing.of p == .shared).map fun p =>
    ⟨p.name, .ownedCopy p.name⟩

/-- The bindings of one run of a loader. -/
def loaderBindings (m : Method) : List Binding :=
  ⟨Names.inner, .sharedCopy Names.inner⟩
    :: m.params.map fun p => ⟨p.name, .clone p.name⟩

/-- The arguments of the inner call of a loader. -/
def loaderArguments (m : Method) : List Argument :=
  m.params.map fun p => ⟨p.name, Passing.of p⟩

/-- The binding of the keys to evict. -/
def evictBinding (ks : List KeyTemplate) : Binding :=
  ⟨Names.evict, .keys ks⟩

/-- The body of a method in a caching decorator. -/
def cacheBody (contract : String) (p : MethodPlan) : Body :=
  let m := p.method
  match p.cache, p.evict with
  | some cache, evict =>
    ⟨(evict.map evictBinding).toList
        ++ ⟨Names.key, .key cache.key⟩ :: ⟨Names.inner, .innerField⟩
        :: capturedParams m,
      .populate (Names.settings contract m.name) evict.isSome
        (loaderBindings m) m.name (loaderArguments m)⟩
  | none, some ks =>
    ⟨[evictBinding ks,
        ⟨Names.result, .forwardedCall m.name (m.params.map Param.name)⟩],
      .evictOnSuccess (p.label contract)⟩
  | none, none => forwardBody m

/-- The body of a method in a tracing decorator. -/
def traceBody (p : MethodPlan) : Body :=
  let m := p.method
  match p.trace with
  | some t =>
    ⟨[⟨Names.span, .span t.spanName t.attributes⟩],
      .traced m.name (m.params.map Param.name)⟩
  | none => forwardBody m

/-! ## Text -/

/-- Texts parted by a comma and a space. -/
def commaList (items : List String) : String :=
  String.intercalate ", " items

/-- The call of the inner implementation. -/
def forwardText (method : String) (args : List String) : String :=
  "self.inner." ++ method ++ "(" ++ commaList args ++ ")"

/-- The call that a method forwards, awaited. -/
def Method.forwardCall (m : Method) : String :=
  forwardText m.name (m.params.map Param.name) ++ ".await"

/-- The head of a method. -/
def Method.signature (m : Method) : String :=
  let params := m.params.map fun p => p.name ++ ": " ++ p.type
  "async fn " ++ m.name ++ "(" ++ commaList ("&self" :: params)
    ++ ") -> Result<" ++ m.returns.value ++ ", " ++ m.returns.error ++ ">"

/-- The code of a list of keys to evict. -/
def evictListCode (runtime : String) (ks : List KeyTemplate) : Code :=
  .block ("let " ++ Names.evict ++ " = vec![")
    (ks.map fun k => .line (k.expression runtime ++ ",")) "];"

/-- The code of a binding. -/
def Binding.code (runtime : String) (b : Binding) : Code :=
  let start := "let " ++ b.name ++ " = "
  match b.value with
  | .key k => .line (start ++ k.expression runtime ++ ";")
  | .keys ks => evictListCode runtime ks
  | .innerField => .line (start ++ "Arc::clone(&self.inner);")
  | .sharedCopy name => .line (start ++ "Arc::clone(&" ++ name ++ ");")
  | .ownedCopy name => .line (start ++ name ++ ".to_owned();")
  | .clone name => .line (start ++ name ++ ".clone();")
  | .forwardedCall method args =>
    .line (start ++ forwardText method args ++ ".await;")
  | .span name attributes =>
    .block (start ++ runtime ++ "::tracing::info_span!(")
      (.line (Text.literal name ++ ",")
        :: attributes.map (fun a => .line (a ++ " = ?" ++ a ++ ","))
        ++ [.line ("otel.status_code = " ++ runtime
              ++ "::tracing::field::Empty")])
      ");"

/-- The text of an argument. -/
def Argument.text (a : Argument) : String :=
  match a.passing with
  | .shared => "&" ++ a.name
  | .owned => a.name

/-- The code of the expression that evicts keys after a success. -/
def evictOnSuccessCode (label : String) : List Code :=
  [.line "self.layer",
    .deeper
      [.line (".evict_on_success(" ++ Text.literal label ++ ", "
          ++ Names.evict ++ ", " ++ Names.result ++ ")"),
        .line ".await"]]

/-- The code of a closing expression. -/
def Tail.code (runtime : String) : Tail → List Code
  | .forward method args => [.line (forwardText method args ++ ".await")]
  | .evictOnSuccess label => evictOnSuccessCode label
  | .traced method args =>
    [.line (runtime ++ "::trace::traced(" ++ Names.span ++ ", "
        ++ forwardText method args ++ ").await")]
  | .populate settings evicting loader method args =>
    let head :=
      if evicting then
        ".get_or_populate_and_evict(&" ++ settings ++ ", " ++ Names.key
          ++ ", " ++ Names.evict ++ ", move || \x7b"
      else
        ".get_or_populate(&" ++ settings ++ ", " ++ Names.key
          ++ ", move || \x7b"
    let call :=
      "async move \x7b " ++ Names.inner ++ "." ++ method ++ "("
        ++ commaList (args.map Argument.text) ++ ").await \x7d"
    [.line "self",
      .deeper
        [.line ".layer",
          .block head (loader.map (Binding.code runtime) ++ [.line call])
            "\x7d)",
          .line ".await"]]

/-- The code of a body. -/
def Body.code (runtime : String) (b : Body) : List Code :=
  b.bindings.map (Binding.code runtime) ++ b.tail.code runtime

end PolicyWeave
