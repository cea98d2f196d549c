import PolicyWeave.Contract.Basic
import PolicyWeave.Yaml.Printer

/-!
# Encoding models

The tree that a policy model is written as.  Policies, fields and span
names that are not there are left out; everything else is written, also
where it has its default.
-/

namespace PolicyWeave

open Yaml (Tree)

namespace Encode

/-- A list of texts. -/
def texts (xs : List String) : Tree := .list (xs.map .text)

/-- A member that is left out if there is nothing to write. -/
def optional {α : Type} (name : String) (f : α → Tree) :
    Option α → List (String × Tree)
  | none => []
  | some x => [(name, f x)]

/-- A kind of parameter. -/
def paramKind : ParamKind → Tree
  | .value => .text "value"
  | .context => .text "context"

/-- A parameter. -/
def param (p : Param) : Tree :=
  .record ([("name", .text p.name), ("ty", .text p.type),
    ("kind", paramKind p.kind)] ++ optional "fields" texts p.fields)

/-- The shape of an answer. -/
def returns (r : Returns) : Tree :=
  .record [("value", .text r.value), ("error", .text r.error)]

/-- A cache policy. -/
def cachePolicy (p : CachePolicy) : Tree :=
  .record [("ttl", .text p.ttl.format), ("prefix", .text p.lead),
    ("key", .text p.key), ("jitter_percent", .number p.jitterPercent),
    ("refresh_threshold_percent", .number p.refreshThresholdPercent)]

/-- An evict policy. -/
def evictPolicy (p : EvictPolicy) : Tree :=
  .record [("keys", texts p.keys)]

/-- A trace policy. -/
def tracePolicy (p : TracePolicy) : Tree :=
  .record (optional "span_name" .text p.spanName
    ++ [("attributes", texts p.attributes)])

/-- A method. -/
def method (m : Method) : Tree :=
  .record ([("name", .text m.name), ("params", .list (m.params.map param)),
    ("returns", returns m.returns)] ++ optional "cache" cachePolicy m.cache
    ++ optional "evict" evictPolicy m.evict
    ++ optional "trace" tracePolicy m.trace)

/-- A contract. -/
def contract (c : Contract) : Tree :=
  .record [("package", .text c.package), ("name", .text c.name),
    ("methods", .list (c.methods.map method))]

/-- A whole model. -/
def model (m : PolicyModel) : Tree :=
  .record [("contracts", .list (m.contracts.map contract))]

end Encode

end PolicyWeave
