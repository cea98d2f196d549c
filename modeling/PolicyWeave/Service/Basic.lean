import PolicyWeave.Plan
import PolicyWeave.Service.Trace
import PolicyWeave.Template.Native

/-!
# Services

A service answers requests.  It is a base with decorators around it, each
of which treats a request as the policies of its method say: the caching
decorator answers through the cache layer, the tracing decorator runs the
request in a span, and a request without the policy at hand goes through.

There are three groups.

* `CallPolicy`: what the policies of a method come to for one request,
  and how it is read off a method plan.
* `cachedCall` and `tracedCall`, the two decorators.
* `Service.answer`, a base with decorators around it.
-/

namespace PolicyWeave

/-! ## Policies of one request -/

/-- What the policies of a method come to for one request.  The warnings
are those of rendering its keys. -/
structure CallPolicy where
  label : String
  cache : Option (CacheSettings × String)
  evict : Option (List String)
  trace : Option SpanRecord
  warnings : List Event

/-- The settings of a cached method. -/
def CachePlan.settings (label : String) (p : CachePlan) : CacheSettings :=
  ⟨label, p.ttl, p.jitterPercent, p.refreshThresholdPercent⟩

/-- What the plan of a method comes to for given argument values.
Attributes of the span are written by `describe`. -/
def MethodPlan.policyFor (contract : String) (args : NativeArguments)
    (describe : String → String) (p : MethodPlan) : CallPolicy :=
  let label := p.label contract
  let key := p.cache.map fun c => (c, c.key.renderNative args)
  let evicted := p.evict.map fun ks => ks.map (·.renderNative args)
  { label := label
    cache := key.map fun (c, t) => (c.settings label, t.text)
    evict := evicted.map fun ts => ts.map KeyText.text
    trace := p.trace.map fun t =>
      ⟨t.spanName, t.attributes.map fun a => (a, describe a)⟩
    warnings :=
      (evicted.getD []).flatMap KeyText.warnings
        ++ ((key.map fun k => k.2.warnings).getD []) }

/-! ## Decorators -/

/-- The kinds of decorators. -/
inductive ServiceLayer where
  | trace
  | cache
  deriving DecidableEq, Repr

namespace ServiceLayer

/-- The kind of a name. -/
def ofName? : String → Option ServiceLayer
  | "trace" => some .trace
  | "cache" => some .cache
  | _ => none

end ServiceLayer

section Decorators

variable {V E L X : Type}

/-- A request through the caching decorator, with the loader that stands
for the inner call. -/
def cachedCall (h : Host (World V E L X) V E L) (codec : Codec V E)
    (p : CallPolicy) (loader : L)
    (inner : Act (World V E L X) (Except E V)) :
    Act (World V E L X) (Except E V) := do
  p.warnings.forM fun e => Act.safe (World.report e)
  match p.cache with
  | some (settings, key) =>
    Layer.fetch h ⟨settings, key, codec, loader, p.evict⟩
  | none =>
    let result ← inner
    match p.evict with
    | some keys => Act.safe (Layer.evictOnSuccess h p.label keys result)
    | none => return result

/-- A request through the tracing decorator. -/
def tracedCall (errorText : E → String) (p : CallPolicy)
    (inner : Act (World V E L X) (Except E V)) :
    Act (World V E L X) (Except E V) :=
  match p.trace with
  | some span => World.traced span errorText inner
  | none => inner

end Decorators

/-! ## Services -/

/-- A service: what its requests come to under its policies, how results
are recorded, and the base that answers in the end. -/
structure Service (Q V E X : Type) where
  policy : Q → CallPolicy
  codec : Q → Codec V E
  errorText : E → String
  base : Q → StateM X (Except E V)

namespace Service

variable {Q V E X : Type} (s : Service Q V E X)

/-- A refresh behind a service runs a request through inner decorators. -/
abbrev Inner (Q : Type) : Type := List ServiceLayer × Q

/-- A request through the base. -/
def answerBase (q : Q) : Act (World V E (Inner Q) X) (Except E V) :=
  Act.safe fun w =>
    let (result, base) := s.base q w.base
    (result, { w with base })

/-- A request through decorators, the outermost first. -/
def answer (c : Wiring) : List ServiceLayer → Q →
    Act (World V E (Inner Q) X) (Except E V)
  | [], q => s.answerBase q
  | .trace :: rest, q =>
    tracedCall s.errorText (s.policy q) (answer c rest q)
  | .cache :: rest, q =>
    cachedCall (c.host (fun l => answer c rest l.2) fun _ => 0) (s.codec q)
      (s.policy q) (rest, q) (answer c rest q)

/-- The collaborators behind a service, as queued refreshes see them. -/
def host (c : Wiring) :
    Host (World V E (Inner Q) X) V E (Inner Q) :=
  c.host (fun l => s.answer c l.1 l.2) fun _ => 0

end Service

end PolicyWeave
