import PolicyWeave.Config.Basic
import PolicyWeave.Source.Body

/-!
# Decorators

A decorator is a type that holds the inner implementation of a contract
and implements the contract itself.  The caching decorator also holds a
cache layer, and its file holds one settings constant for each cached
method.

* `SettingsConstant` and `Decorator` are the items as data.
* `cacheDecorator` and `traceDecorator` build them from a plan.
* `Decorator.code` is their text.
-/

namespace PolicyWeave

/-- The constant with the cache settings of one method. -/
structure SettingsConstant where
  name : String
  label : String
  plan : CachePlan

/-- A decorator as data: its type, the constants in front of it, and the
body of each method. -/
structure Decorator where
  name : String
  contract : String
  title : String
  layered : Bool
  settings : List SettingsConstant
  functions : List (Method × Body)

/-- The path under which generated code reaches its runtime support. -/
def Config.runtime (c : Config) : String :=
  String.ofList (trimSeparators c.runtimePath.toList)

/-! ## Building -/

/-- The settings constant of a method, if it is cached. -/
def settingsConstant? (contract : String) (p : MethodPlan) :
    Option SettingsConstant :=
  p.cache.map fun cache =>
    ⟨Names.settings contract p.method.name, p.label contract, cache⟩

/-- The caching decorator of a plan. -/
def cacheDecorator (p : ContractPlan) : Decorator :=
  let contract := p.contract.name
  { name := Names.cacheDecorator contract
    contract := contract
    title := "Caching"
    layered := true
    settings := p.methods.filterMap (settingsConstant? contract)
    functions := p.methods.map fun m => (m.method, cacheBody contract m) }

/-- The tracing decorator of a plan. -/
def traceDecorator (p : ContractPlan) : Decorator :=
  let contract := p.contract.name
  { name := Names.traceDecorator contract
    contract := contract
    title := "Tracing"
    layered := false
    settings := []
    functions := p.methods.map fun m => (m.method, traceBody m) }

/-! ## Text -/

/-- The code of a settings constant. -/
def SettingsConstant.code (runtime : String) (s : SettingsConstant) :
    Code :=
  let type := runtime ++ "::CacheSettings"
  .block ("const " ++ s.name ++ ": " ++ type ++ " = " ++ type ++ " \x7b")
    [.line ("method: " ++ Text.literal s.label ++ ","),
      .line ("ttl: ::std::time::Duration::from_millis("
        ++ Number.natText s.plan.ttl.milliseconds ++ "),"),
      .line ("jitter_percent: " ++ s.plan.jitterPercent.codeText ++ ","),
      .line ("refresh_threshold_percent: "
        ++ s.plan.refreshThresholdPercent.codeText ++ ",")]
    "\x7d;"

/-- The code of a method. -/
def functionCode (runtime : String) (f : Method × Body) : List Code :=
  [.block (f.1.signature ++ " \x7b") (f.2.code runtime) "\x7d"]

/-- The code of a decorator. -/
def Decorator.code (config : Config) (d : Decorator) : List Code :=
  let runtime := config.runtime
  let shared := "Arc<dyn " ++ d.contract ++ ">"
  let layer := runtime ++ "::CacheLayer"
  let constants := d.settings.flatMap fun s => [s.code runtime, .blank]
  constants ++
    [.line ("/// " ++ d.title ++ " decorator for [`" ++ d.contract
        ++ "`]."),
      .block ("pub struct " ++ d.name ++ " \x7b")
        (.line ("inner: " ++ shared ++ ",")
          :: if d.layered then [.line ("layer: " ++ layer ++ ",")] else [])
        "\x7d",
      .blank,
      .block ("impl " ++ d.name ++ " \x7b")
        [.block
          ("pub fn new(inner: " ++ shared
            ++ (if d.layered then ", layer: " ++ layer else "")
            ++ ") -> Self \x7b")
          [.line (if d.layered then "Self \x7b inner, layer \x7d"
            else "Self \x7b inner \x7d")]
          "\x7d"]
        "\x7d",
      .blank,
      .line ("#[" ++ config.asyncTraitPath ++ "]"),
      .block ("impl " ++ d.contract ++ " for " ++ d.name ++ " \x7b")
        (Code.spaced (d.functions.map (functionCode runtime)))
        "\x7d"]

end PolicyWeave
