import PolicyWeave.Duration

/-!
# Contracts and policies

A contract is a named set of methods.  A method may carry a policy of each
of three kinds: its results are cached, its success evicts cached keys,
its calls are traced.  A policy that is not there is `none`, so what is
generated for a method depends on the data alone.

There are three groups.

* The types, from a whole model down to a parameter.
* What is read off a method, a cache policy and a trace policy.
* `PolicyModel.sameAs`, equality with numbers compared as numbers.
-/

namespace PolicyWeave

open Number (Double)

/-! ## Types -/

/-- Whether a parameter is an ordinary value or the ambient context. -/
inductive ParamKind where
  | value
  | context
  deriving DecidableEq, Repr, Inhabited

/-- A parameter with its type as written, and its fields if they are
known. -/
structure Param where
  name : String
  type : String
  kind : ParamKind
  fields : Option (List String)
  deriving DecidableEq, Inhabited

/-- The value and the error that a method answers. -/
structure Returns where
  value : String
  error : String
  deriving DecidableEq, Inhabited

/-- How the results of a method are cached. -/
structure CachePolicy where
  ttl : Duration
  lead : String
  key : String
  jitterPercent : Double
  refreshThresholdPercent : Double
  deriving DecidableEq, Inhabited

/-- The keys that a successful call removes from the cache. -/
structure EvictPolicy where
  keys : List String
  deriving DecidableEq, Inhabited

/-- The span of a call and the parameters that it records. -/
structure TracePolicy where
  spanName : Option String
  attributes : List String
  deriving DecidableEq, Inhabited

/-- A method of a contract. -/
structure Method where
  name : String
  params : List Param
  returns : Returns
  cache : Option CachePolicy
  evict : Option EvictPolicy
  trace : Option TracePolicy
  deriving DecidableEq, Inhabited

/-- A named set of methods in a package. -/
structure Contract where
  package : String
  name : String
  methods : List Method
  deriving DecidableEq, Inhabited

/-- All contracts of one run. -/
structure PolicyModel where
  contracts : List Contract
  deriving DecidableEq, Inhabited

/-! ## Reading methods and policies -/

/-- The first method of a name. -/
def Contract.method? (c : Contract) (name : String) : Option Method :=
  c.methods.find? fun m => m.name == name

namespace Method

/-- The first parameter of a name. -/
def param? (m : Method) (name : String) : Option Param :=
  m.params.find? fun p => p.name == name

/-- The parameters that are not contexts, in order. -/
def valueParams (m : Method) : List Param :=
  m.params.filter fun p => p.kind == .value

/-- The first context parameter. -/
def contextParam? (m : Method) : Option Param :=
  m.params.find? fun p => p.kind == .context

/-- Whether the method carries a policy of any kind. -/
def hasPolicy (m : Method) : Bool :=
  m.cache.isSome || m.evict.isSome || m.trace.isSome

end Method

/-- The key template of a cache policy that leaves its own empty: the
method and all its value parameters. -/
def defaultKeyTemplate : String := "\x7bMETHOD\x7d:\x7bbase64_json()\x7d"

/-- The template that a cache policy stands for. -/
def CachePolicy.effectiveTemplate (p : CachePolicy) : String :=
  p.lead ++ if p.key.isEmpty then defaultKeyTemplate else p.key

/-- The span name of a trace policy, by default the contract and the
method. -/
def TracePolicy.effectiveSpan (p : TracePolicy) (contract method : String) :
    String :=
  p.spanName.getD (contract ++ "." ++ method)

/-! ## Equality -/

/-- Equality of cache policies.  Percentages are compared as numbers, so
a NaN differs from itself. -/
def CachePolicy.sameAs (p q : CachePolicy) : Bool :=
  p.ttl == q.ttl && p.lead == q.lead && p.key == q.key
    && p.jitterPercent.numEq q.jitterPercent
    && p.refreshThresholdPercent.numEq q.refreshThresholdPercent

/-- Equality of methods. -/
def Method.sameAs (m n : Method) : Bool :=
  m.name == n.name && m.params == n.params && m.returns == n.returns
    && (match m.cache, n.cache with
        | none, none => true
        | some p, some q => p.sameAs q
        | _, _ => false)
    && m.evict == n.evict && m.trace == n.trace

/-- Two lists of one length whose items are alike place by place. -/
def alike {α : Type} (same : α → α → Bool) : List α → List α → Bool
  | [], [] => true
  | x :: xs, y :: ys => same x y && alike same xs ys
  | _, _ => false

/-- Equality of contracts. -/
def Contract.sameAs (c d : Contract) : Bool :=
  c.package == d.package && c.name == d.name
    && alike Method.sameAs c.methods d.methods

/-- Equality of models. -/
def PolicyModel.sameAs (m n : PolicyModel) : Bool :=
  alike Contract.sameAs m.contracts n.contracts

end PolicyWeave
