import PolicyWeave.Source.Delegator

/-!
# Emission

A generated file is written with one writer, from the top to the bottom.
Each emitter gives the steps of one part, in the order in which they are
taken: lines, blocks that open and close, changes of the depth.  Nothing
here keeps the steps that open and those that close in pairs.

* The emitters of evictions, of the caching decorator, of the tracing
  decorator, and of the decorator stack.
* `ContractPlan.emitFile` are the steps of a file, and
  `ContractPlan.render` is its text.
-/

namespace PolicyWeave

/-! ## Evictions -/

/-- The steps that bind the keys to evict. -/
def emitEvictList (runtime : String) (ks : List KeyTemplate) :
    List WriterStep :=
  [.openBlock ("let " ++ Names.evict ++ " = vec![")]
    ++ ks.map (fun k => .line (k.expression runtime ++ ","))
    ++ [.closeBlock "];"]

/-- The steps of the expression that evicts keys after a success. -/
def emitEvictOnSuccess (label : String) : List WriterStep :=
  [.line "self.layer",
    .indent,
    .line (".evict_on_success(" ++ Text.literal label ++ ", " ++ Names.evict
      ++ ", " ++ Names.result ++ ")"),
    .line ".await",
    .dedent]

/-! ## Functions of an implementation -/

/-- The steps of the function at a place among those of an implementation.
An empty line stands in front of each but the first. -/
def emitFunction (body : MethodPlan → List WriterStep) (m : MethodPlan)
    (place : Nat) : List WriterStep :=
  (if 0 < place then [.blank] else [])
    ++ [.openBlock (m.method.signature ++ " \x7b")]
    ++ body m
    ++ [.closeBlock "\x7d"]

/-- The steps of the functions of an implementation, one for each method. -/
def emitFunctions (body : MethodPlan → List WriterStep)
    (ms : List MethodPlan) : List WriterStep :=
  ms.zipIdx.flatMap fun x => emitFunction body x.1 x.2

/-! ## The caching decorator -/

/-- The steps of the settings of a cached method. -/
def emitSettings (runtime contract : String) (m : MethodPlan)
    (cache : CachePlan) : List WriterStep :=
  [.openBlock ("const " ++ Names.settings contract m.method.name ++ ": "
      ++ runtime ++ "::CacheSettings = " ++ runtime
      ++ "::CacheSettings \x7b"),
    .line ("method: " ++ Text.literal (m.label contract) ++ ","),
    .line ("ttl: ::std::time::Duration::from_millis("
      ++ Number.natText cache.ttl.milliseconds ++ "),"),
    .line ("jitter_percent: " ++ cache.jitterPercent.codeText ++ ","),
    .line ("refresh_threshold_percent: "
      ++ cache.refreshThresholdPercent.codeText ++ ","),
    .closeBlock "\x7d;"]

/-- The steps that look a value up, and load it if it is missing.  With
`evicting`, the keys to evict are bound already. -/
def emitPopulate (runtime contract : String) (m : Method)
    (cache : CachePlan) (evicting : Bool) : List WriterStep :=
  let settings := Names.settings contract m.name
  let passed := m.params.map fun q => Argument.text ⟨q.name, Passing.of q⟩
  [.line ("let __key = " ++ cache.key.expression runtime ++ ";"),
      .line "let __inner = Arc::clone(&self.inner);"]
    ++ m.params.flatMap (fun q =>
      if Passing.of q == .shared then
        [.line ("let " ++ q.name ++ " = " ++ q.name ++ ".to_owned();")]
      else [])
    ++ [.line "self", .indent, .line ".layer"]
    ++ (if evicting then
        [.openBlock (".get_or_populate_and_evict(&" ++ settings
          ++ ", __key, __evict, move || \x7b")]
      else
        [.openBlock (".get_or_populate(&" ++ settings
          ++ ", __key, move || \x7b")])
    ++ [.line "let __inner = Arc::clone(&__inner);"]
    ++ m.params.map (fun q =>
      .line ("let " ++ q.name ++ " = " ++ q.name ++ ".clone();"))
    ++ [.line ("async move \x7b __inner." ++ m.name ++ "("
          ++ commaList passed ++ ").await \x7d"),
        .closeBlock "\x7d)",
        .line ".await",
        .dedent]

/-- The steps of the body of a method in the caching decorator. -/
def emitCacheBody (runtime contract : String) (m : MethodPlan) :
    List WriterStep :=
  match m.cache, m.evict with
  | some cache, evict =>
    (match evict with
      | some ks => emitEvictList runtime ks
      | none => [])
      ++ emitPopulate runtime contract m.method cache evict.isSome
  | none, some ks =>
    emitEvictList runtime ks
      ++ [.line ("let __result = " ++ m.method.forwardCall ++ ";")]
      ++ emitEvictOnSuccess (m.label contract)
  | none, none => [.line m.method.forwardCall]

namespace ContractPlan

/-- The steps of the settings of all cached methods. -/
def emitConstants (runtime : String) (p : ContractPlan) : List WriterStep :=
  p.methods.flatMap fun m =>
    match m.cache with
    | some cache => emitSettings runtime p.contract.name m cache ++ [.blank]
    | none => []

/-- The steps of the caching decorator: the settings, the type, its
construction, and the implementation of the contract. -/
def emitCacheDecorator (config : Config) (p : ContractPlan) :
    List WriterStep :=
  let runtime := config.runtime
  let contract := p.contract.name
  let name := Names.cacheDecorator contract
  let shared := "Arc<dyn " ++ contract ++ ">"
  p.emitConstants runtime
    ++ [.line ("/// Caching decorator for [`" ++ contract ++ "`]."),
        .openBlock ("pub struct " ++ name ++ " \x7b"),
        .line ("inner: " ++ shared ++ ","),
        .line ("layer: " ++ runtime ++ "::CacheLayer,"),
        .closeBlock "\x7d",
        .blank]
    ++ [.openBlock ("impl " ++ name ++ " \x7b"),
        .openBlock ("pub fn new(inner: " ++ shared ++ ", layer: " ++ runtime
          ++ "::CacheLayer) -> Self \x7b"),
        .line "Self \x7b inner, layer \x7d",
        .closeBlock "\x7d",
        .closeBlock "\x7d",
        .blank]
    ++ [.line ("#[" ++ config.asyncTraitPath ++ "]"),
        .openBlock ("impl " ++ contract ++ " for " ++ name ++ " \x7b")]
    ++ emitFunctions (emitCacheBody runtime contract) p.methods
    ++ [.closeBlock "\x7d"]

end ContractPlan

/-! ## The tracing decorator -/

/-- The steps of the body of a traced method. -/
def emitTracedBody (runtime : String) (m : Method) (trace : TracePlan) :
    List WriterStep :=
  [.openBlock ("let __span = " ++ runtime ++ "::tracing::info_span!("),
      .line (Text.literal trace.spanName ++ ",")]
    ++ trace.attributes.map (fun a => .line (a ++ " = ?" ++ a ++ ","))
    ++ [.line ("otel.status_code = " ++ runtime
          ++ "::tracing::field::Empty"),
        .closeBlock ");",
        .line (runtime ++ "::trace::traced(__span, "
          ++ forwardText m.name (m.params.map Param.name) ++ ").await")]

/-- The steps of the body of a method in the tracing decorator. -/
def emitTraceBody (runtime : String) (m : MethodPlan) : List WriterStep :=
  match m.trace with
  | some trace => emitTracedBody runtime m.method trace
  | none => [.line m.method.forwardCall]

namespace ContractPlan

/-- The steps of the tracing decorator: the type, its construction, and the
implementation of the contract. -/
def emitTraceDecorator (config : Config) (p : ContractPlan) :
    List WriterStep :=
  let contract := p.contract.name
  let name := Names.traceDecorator contract
  let shared := "Arc<dyn " ++ contract ++ ">"
  [.line ("/// Tracing decorator for [`" ++ contract ++ "`]."),
      .openBlock ("pub struct " ++ name ++ " \x7b"),
      .line ("inner: " ++ shared ++ ","),
      .closeBlock "\x7d",
      .blank]
    ++ [.openBlock ("impl " ++ name ++ " \x7b"),
        .openBlock ("pub fn new(inner: " ++ shared ++ ") -> Self \x7b"),
        .line "Self \x7b inner \x7d",
        .closeBlock "\x7d",
        .closeBlock "\x7d",
        .blank]
    ++ [.line ("#[" ++ config.asyncTraitPath ++ "]"),
        .openBlock ("impl " ++ contract ++ " for " ++ name ++ " \x7b")]
    ++ emitFunctions (emitTraceBody config.runtime) p.methods
    ++ [.closeBlock "\x7d"]

/-! ## The decorator stack -/

/-- The steps of the decorator stack: its alias, the function that starts
one, and a factory for each decorator that the plan needs. -/
def emitDelegator (config : Config) (p : ContractPlan) : List WriterStep :=
  let runtime := config.runtime
  let contract := p.contract.name
  let snake := Text.snakeCase contract
  let stack := Names.delegator contract
  let shared := "Arc<dyn " ++ contract ++ ">"
  let factory := "impl Fn(" ++ shared ++ ") -> " ++ shared
    ++ " + Send + Sync + 'static"
  [.line ("/// Ordered decorator stack for [`" ++ contract
        ++ "`]. The first factory registered is the outermost layer."),
      .line ("pub type " ++ stack ++ " = " ++ runtime
        ++ "::DelegatorBuilder<dyn " ++ contract ++ ">;"),
      .blank]
    ++ [.openBlock ("pub fn " ++ snake ++ "_delegator(base: " ++ shared
          ++ ") -> " ++ stack ++ " \x7b"),
        .line (runtime ++ "::DelegatorBuilder::new(base)"),
        .closeBlock "\x7d"]
    ++ (if p.needsCacheLayer then
        [.blank,
          .openBlock ("pub fn " ++ snake ++ "_cache(layer: " ++ runtime
            ++ "::CacheLayer) -> " ++ factory ++ " \x7b"),
          .openBlock ("move |inner: " ++ shared ++ "| -> " ++ shared
            ++ " \x7b"),
          .line ("Arc::new(" ++ Names.cacheDecorator contract
            ++ "::new(inner, layer.clone()))"),
          .closeBlock "\x7d",
          .closeBlock "\x7d"]
      else [])
    ++ (if p.needsTraceLayer then
        [.blank,
          .openBlock ("pub fn " ++ snake ++ "_trace() -> " ++ factory
            ++ " \x7b"),
          .openBlock ("|inner: " ++ shared ++ "| -> " ++ shared ++ " \x7b"),
          .line ("Arc::new(" ++ Names.traceDecorator contract
            ++ "::new(inner))"),
          .closeBlock "\x7d",
          .closeBlock "\x7d"]
      else [])

/-! ## Files -/

/-- The steps of the file of a plan: the header, the name of the contract,
what the file uses, and the parts that are needed or asked for. -/
def emitFile (config : Config) (p : ContractPlan) : List WriterStep :=
  (Text.lines config.header.toList).map (fun l => .line (String.ofList l))
    ++ [.line ("// Contract: " ++ p.contract.package ++ "::"
          ++ p.contract.name),
        .blank,
        .line "use super::*;",
        .line "use std::sync::Arc;"]
    ++ (if p.needsCacheLayer then
        .blank :: p.emitCacheDecorator config
      else [])
    ++ (if p.needsTraceLayer then
        .blank :: p.emitTraceDecorator config
      else [])
    ++ (if config.emitDelegator then
        .blank :: p.emitDelegator config
      else [])

/-- The text of the file of a plan. -/
def render (config : Config) (p : ContractPlan) : String :=
  (Writer.empty.run (p.emitFile config)).text

end ContractPlan

end PolicyWeave
