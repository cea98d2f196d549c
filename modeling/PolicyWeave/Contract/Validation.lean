import PolicyWeave.Contract.Error
import PolicyWeave.Contract.Reference
import PolicyWeave.Text.Identifier

/-!
# Validation

`Contract.violations` lists every broken rule of a contract, one error
for each violating item: the contract's own name first, then method by
method in order.  A contract is valid when the list is empty.

Template references are no matter of validation.
-/

namespace PolicyWeave

open Number (Double)

/-- The method name under which errors of the contract itself stand. -/
def contractScope : String := "(contract)"

/-- The error of a name that is no name of an item. -/
def nameViolations (kind name : String) : List ValidationError :=
  if Text.isItemName name then [] else [.invalidIdentifier kind name]

/-- One hundred, as a double. -/
def hundred : Double := Number.Format.double.ofNat 100

/-- Whether a percentage lies in `[0, 100)`. -/
def isPercent (x : Double) : Bool :=
  Number.Binary.zero.le x && x.lt hundred

/-- The error of a percentage out of range. -/
def percentViolations (field : String) (x : Double) :
    List ValidationError :=
  if isPercent x then [] else [.percentOutOfRange field x]

/-- The violations of the parameters from `index` on, after parameters of
the names in `seen`. -/
def paramViolations (seen : List String) (index : Nat) :
    List Param → List ValidationError
  | [] => []
  | p :: rest =>
    nameViolations "parameter" p.name
      ++ (if seen.contains p.name then [.duplicate "parameter" p.name]
          else [])
      ++ (if p.kind == .context && index != 0 then
            [.misplacedContext p.name]
          else [])
      ++ paramViolations (p.name :: seen) (index + 1) rest

namespace Method

/-- The violations of the cache policy. -/
def cacheViolations (m : Method) (p : CachePolicy) :
    List ValidationError :=
  (if p.ttl.isZero then [.zeroTtl] else [])
    ++ (m.params.filter Param.isMutRef).map (.mutableCacheParam ·.name)
    ++ percentViolations "jitter_percent" p.jitterPercent
    ++ percentViolations "refresh_threshold_percent"
        p.refreshThresholdPercent

/-- The violations of the evict policy. -/
def evictViolations (p : EvictPolicy) : List ValidationError :=
  if p.keys.isEmpty then [.emptyEvictPolicy] else []

/-- Whether the first parameter of a name is a value. -/
def isValueParam (m : Method) (name : String) : Bool :=
  (m.param? name).any fun p => p.kind == .value

/-- The violations of the trace policy. -/
def traceViolations (m : Method) (p : TracePolicy) :
    List ValidationError :=
  (p.attributes.filter fun a => !m.isValueParam a).map
    .unknownTraceAttribute

/-- The violations of a method. -/
def violations (m : Method) : List ValidationError :=
  nameViolations "method" m.name
    ++ paramViolations [] 0 m.params
    ++ (m.cache.map m.cacheViolations).getD []
    ++ (m.evict.map evictViolations).getD []
    ++ (m.trace.map m.traceViolations).getD []

end Method

/-- The violations of methods, after methods of the names in `seen`. -/
def methodViolations (contract : String) (seen : List String) :
    List Method → List MethodError
  | [] => []
  | m :: rest =>
    let repeated : List ValidationError :=
      if seen.contains m.name then [.duplicate "method" m.name] else []
    (repeated ++ m.violations).map (.ofValidation contract m.name)
      ++ methodViolations contract (m.name :: seen) rest

namespace Contract

/-- The violations of a contract. -/
def violations (c : Contract) : List MethodError :=
  (nameViolations "contract" c.name).map
      (.ofValidation c.name contractScope)
    ++ methodViolations c.name [] c.methods

/-- Whether a contract breaks no rule. -/
def isValid (c : Contract) : Bool := c.violations.isEmpty

end Contract

end PolicyWeave
