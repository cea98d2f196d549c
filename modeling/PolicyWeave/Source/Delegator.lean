import PolicyWeave.Source.Decorator

/-!
# Decorator stacks

For each contract the generated file may hold an alias for its decorator
stack, the function that starts one, and a factory function for each
decorator of the file.
-/

namespace PolicyWeave

/-- The alias, the start function and the factories of a contract. -/
structure DelegatorItems where
  contract : String
  hasCache : Bool
  hasTrace : Bool

/-- The stack items of a plan: a factory for each decorator that the plan
asks for. -/
def delegatorItems (p : ContractPlan) : DelegatorItems :=
  ⟨p.contract.name, p.needsCacheLayer, p.needsTraceLayer⟩

namespace DelegatorItems

/-- The type of shared implementations of the contract. -/
def shared (d : DelegatorItems) : String :=
  "Arc<dyn " ++ d.contract ++ ">"

/-- The type of a factory. -/
def factoryType (d : DelegatorItems) : String :=
  "impl Fn(" ++ d.shared ++ ") -> " ++ d.shared
    ++ " + Send + Sync + 'static"

/-- The code of the alias and the start function. -/
def startCode (runtime : String) (d : DelegatorItems) : List Code :=
  let stack := Names.delegator d.contract
  [.line ("/// Ordered decorator stack for [`" ++ d.contract
      ++ "`]. The first factory registered is the outermost layer."),
    .line ("pub type " ++ stack ++ " = " ++ runtime
      ++ "::DelegatorBuilder<dyn " ++ d.contract ++ ">;"),
    .blank,
    .block
      ("pub fn " ++ Names.delegatorFunction d.contract ++ "(base: "
        ++ d.shared ++ ") -> " ++ stack ++ " \x7b")
      [.line (runtime ++ "::DelegatorBuilder::new(base)")]
      "\x7d"]

/-- The code of the factory of the caching decorator. -/
def cacheFactoryCode (runtime : String) (d : DelegatorItems) : List Code :=
  [.block
    ("pub fn " ++ Names.cacheFactory d.contract ++ "(layer: " ++ runtime
      ++ "::CacheLayer) -> " ++ d.factoryType ++ " \x7b")
    [.block
      ("move |inner: " ++ d.shared ++ "| -> " ++ d.shared ++ " \x7b")
      [.line ("Arc::new(" ++ Names.cacheDecorator d.contract
        ++ "::new(inner, layer.clone()))")]
      "\x7d"]
    "\x7d"]

/-- The code of the factory of the tracing decorator. -/
def traceFactoryCode (d : DelegatorItems) : List Code :=
  [.block
    ("pub fn " ++ Names.traceFactory d.contract ++ "() -> "
      ++ d.factoryType ++ " \x7b")
    [.block ("|inner: " ++ d.shared ++ "| -> " ++ d.shared ++ " \x7b")
      [.line ("Arc::new(" ++ Names.traceDecorator d.contract
        ++ "::new(inner))")]
      "\x7d"]
    "\x7d"]

/-- The code of all stack items. -/
def code (config : Config) (d : DelegatorItems) : List Code :=
  let runtime := config.runtime
  d.startCode runtime
    ++ (if d.hasCache then .blank :: d.cacheFactoryCode runtime else [])
    ++ (if d.hasTrace then .blank :: d.traceFactoryCode else [])

end DelegatorItems

end PolicyWeave
