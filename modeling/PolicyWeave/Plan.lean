import PolicyWeave.Contract.Validation
import PolicyWeave.Template.Compile

/-!
# Plans

A plan is a contract known to be good, with every key template compiled.
Planning collects all errors of a contract and does not stop at the
first: the broken rules first, then the templates that fail, method by
method.

* `Method.templates` lists the templates of a method in that order.
* `Contract.planErrors` lists what stands in the way of a plan.
* `Contract.plan` is the plan, or the errors when there are any.
-/

namespace PolicyWeave

open Number (Double)

/-! ## Types -/

/-- A cache policy with its key compiled. -/
structure CachePlan where
  key : KeyTemplate
  ttl : Duration
  jitterPercent : Double
  refreshThresholdPercent : Double

/-- A trace policy with its span name settled. -/
structure TracePlan where
  spanName : String
  attributes : List String
  deriving DecidableEq

/-- A method with its policies compiled. -/
structure MethodPlan where
  method : Method
  cache : Option CachePlan
  evict : Option (List KeyTemplate)
  trace : Option TracePlan

/-- A contract with its methods compiled. -/
structure ContractPlan where
  contract : Contract
  methods : List MethodPlan

/-- The name of a method within its contract. -/
def MethodPlan.label (contract : String) (m : MethodPlan) : String :=
  contract ++ "." ++ m.method.name

namespace ContractPlan

/-- Whether any method reads or evicts cached entries. -/
def needsCacheLayer (p : ContractPlan) : Bool :=
  p.methods.any fun m => m.cache.isSome || m.evict.isSome

/-- Whether any method is traced. -/
def needsTraceLayer (p : ContractPlan) : Bool :=
  p.methods.any fun m => m.trace.isSome

end ContractPlan

/-! ## Templates of a method -/

namespace Method

/-- The templates of a method: the one of its cache policy, then those of
its evict policy. -/
def templates (m : Method) : List String :=
  (m.cache.map CachePolicy.effectiveTemplate).toList
    ++ (m.evict.map EvictPolicy.keys).getD []

/-- The errors of the templates of a method. -/
def templateErrors (table : BuiltinTable) (c : Contract) (m : Method) :
    List MethodError :=
  m.templates.filterMap fun t =>
    match KeyTemplate.compile table c m t with
    | .ok _ => none
    | .error e => some (.ofTemplate c.name m.name t e)

/-- The key template of a text, if it compiles. -/
def compiled? (table : BuiltinTable) (c : Contract) (m : Method)
    (t : String) : Option KeyTemplate :=
  (KeyTemplate.compile table c m t).toOption

/-- The plan of a method, without the templates that do not compile. -/
def plan (table : BuiltinTable) (c : Contract) (m : Method) : MethodPlan :=
  { method := m
    cache := do
      let p ← m.cache
      let key ← compiled? table c m p.effectiveTemplate
      return ⟨key, p.ttl, p.jitterPercent, p.refreshThresholdPercent⟩
    evict := m.evict.map fun p => p.keys.filterMap (compiled? table c m)
    trace := m.trace.map fun p =>
      ⟨p.effectiveSpan c.name m.name, p.attributes⟩ }

/-- The events of the templates that compile. -/
def compileEvents (table : BuiltinTable) (c : Contract) (m : Method) :
    List Event :=
  (m.templates.filterMap (compiled? table c m)).map
    (KeyTemplate.compiledEvent c m)

end Method

/-! ## Plan of a contract -/

namespace Contract

/-- What stands in the way of a plan. -/
def planErrors (table : BuiltinTable) (c : Contract) : List MethodError :=
  c.violations ++ c.methods.flatMap (Method.templateErrors table c)

/-- The plan of a contract, or everything that is wrong with it. -/
def plan (table : BuiltinTable) (c : Contract) :
    Except (List MethodError) ContractPlan :=
  match c.planErrors table with
  | [] => .ok ⟨c, c.methods.map (Method.plan table c)⟩
  | errors => .error errors

/-- The events of planning a contract. -/
def compileEvents (table : BuiltinTable) (c : Contract) : List Event :=
  c.methods.flatMap (Method.compileEvents table c)

end Contract

end PolicyWeave
