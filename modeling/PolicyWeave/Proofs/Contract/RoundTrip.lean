import PolicyWeave.Contract.Yaml
import PolicyWeave.Proofs.Data.Reading
import PolicyWeave.Proofs.Duration.Decimal
import PolicyWeave.Sample.Contracts

/-!
# Models written and read back

A model is written as a tree of records, and a model is read from whatever a
reader takes apart in the same way.  Reading undoes writing: what is left out
because it is not there is missing again, and what is empty is there and
empty.

* `PolicyModel.Writable` says of a model that its times are whole
  milliseconds, at most `2 ^ 53` of them, and its percentages are numbers.
* `Decode.model?_of_holds`: a value that holds the tree of a writable model
  decodes to that model, in every format.  There is one lemma for each kind
  of record.
* `PolicyModel.load_toYaml` is the same for YAML texts.  `Yaml.ReadsBack` is
  what is asked of the format: the text of a tree is that of a document that
  holds the tree.
-/

namespace PolicyWeave

open Yaml (Tree)

/-! ## Writable models -/

/-- Whether a cache policy can be written without a loss: its time is made of
whole milliseconds that a double can count, and its percentages are
numbers. -/
structure CachePolicy.Writable (p : CachePolicy) : Prop where
  whole : p.ttl.IsWhole
  short : p.ttl.milliseconds ≤ 2 ^ 53
  jitter : p.jitterPercent ≠ .nan
  threshold : p.refreshThresholdPercent ≠ .nan

/-- Whether all cache policies of a contract can. -/
def Contract.Writable (c : Contract) : Prop :=
  ∀ m ∈ c.methods, ∀ p ∈ m.cache, p.Writable

/-- Whether all cache policies of a model can. -/
def PolicyModel.Writable (m : PolicyModel) : Prop :=
  ∀ c ∈ m.contracts, c.Writable

instance (p : CachePolicy) : Decidable p.Writable :=
  decidable_of_iff
    (p.ttl.IsWhole ∧ p.ttl.milliseconds ≤ 2 ^ 53 ∧ p.jitterPercent ≠ .nan
      ∧ p.refreshThresholdPercent ≠ .nan)
    ⟨fun ⟨hwhole, hshort, hjitter, hthreshold⟩ =>
      ⟨hwhole, hshort, hjitter, hthreshold⟩,
    fun h => ⟨h.whole, h.short, h.jitter, h.threshold⟩⟩

instance (c : Contract) : Decidable c.Writable :=
  inferInstanceAs (Decidable (∀ m ∈ c.methods, ∀ p ∈ m.cache, p.Writable))

instance (m : PolicyModel) : Decidable m.Writable :=
  inferInstanceAs (Decidable (∀ c ∈ m.contracts, c.Writable))

/-- The time of a writable policy is known from its text. -/
theorem CachePolicy.Writable.parse?_format {p : CachePolicy}
    (h : p.Writable) : Duration.parse? p.ttl.format = some p.ttl := by
  have hsize : p.ttl.milliseconds < UInt64.size :=
    h.short.trans_lt (by decide)
  rw [Duration.parse?_format h.short,
    Duration.ofMilliseconds_milliseconds h.whole hsize]

/-! ## Encoded records -/

namespace Encode

open Reader (present)

theorem param_eq (p : Param) :
    param p = .record (present [("name", some (.text p.name)),
      ("ty", some (.text p.type)), ("kind", some (paramKind p.kind)),
      ("fields", p.fields.map texts)]) := by
  obtain ⟨name, type, kind, fields⟩ := p
  cases fields <;> rfl

theorem returns_eq (x : Returns) :
    returns x = .record (present [("value", some (.text x.value)),
      ("error", some (.text x.error))]) := rfl

theorem cachePolicy_eq (p : CachePolicy) :
    cachePolicy p = .record (present [("ttl", some (.text p.ttl.format)),
      ("prefix", some (.text p.lead)), ("key", some (.text p.key)),
      ("jitter_percent", some (.number p.jitterPercent)),
      ("refresh_threshold_percent",
        some (.number p.refreshThresholdPercent))]) := rfl

theorem evictPolicy_eq (p : EvictPolicy) :
    evictPolicy p = .record (present [("keys", some (texts p.keys))]) := rfl

theorem tracePolicy_eq (p : TracePolicy) :
    tracePolicy p = .record (present [("span_name", p.spanName.map .text),
      ("attributes", some (texts p.attributes))]) := by
  obtain ⟨spanName, attributes⟩ := p
  cases spanName <;> rfl

theorem method_eq (m : Method) :
    method m = .record (present [("name", some (.text m.name)),
      ("params", some (.list (m.params.map param))),
      ("returns", some (returns m.returns)),
      ("cache", m.cache.map cachePolicy), ("evict", m.evict.map evictPolicy),
      ("trace", m.trace.map tracePolicy)]) := by
  obtain ⟨name, params, returns, cache, evict, trace⟩ := m
  cases cache <;> cases evict <;> cases trace <;> rfl

theorem contract_eq (c : Contract) :
    contract c = .record (present [("package", some (.text c.package)),
      ("name", some (.text c.name)),
      ("methods", some (.list (c.methods.map method)))]) := rfl

theorem model_eq (m : PolicyModel) :
    model m = .record (present
      [("contracts", some (.list (m.contracts.map contract)))]) := rfl

end Encode

/-! ## Decoding what was encoded -/

namespace Decode

open Reader (required_of_holds orDefault_of_holds optional_of_holds
  listOf_of_holds)

variable {α : Type} {r : Reader α} {v : α}

theorem text?_of_holds {s : String} (h : r.holds (.text s) v = true) :
    r.text? v = some s := by
  simp_all [Reader.holds]

theorem number?_of_holds {x : Number.Double}
    (h : r.holds (.number x) v = true) : r.number? v = some x := by
  simp_all [Reader.holds]

theorem texts?_of_holds {xs : List String}
    (h : r.holds (Encode.texts xs) v = true) :
    r.listOf r.text? v = some xs :=
  listOf_of_holds h fun _ _ _ => text?_of_holds

theorem paramKind?_of_holds {k : ParamKind}
    (h : r.holds (Encode.paramKind k) v = true) :
    paramKind? r v = some k := by
  cases k <;> simp_all [Encode.paramKind, Reader.holds, paramKind?]

theorem param?_of_holds {p : Param}
    (h : r.holds (Encode.param p) v = true) : param? r v = some p := by
  rw [Encode.param_eq] at h
  obtain ⟨ws, hfields, hws⟩ := Reader.fields?_of_holds (by simp) h
  -- One value for each declared field, in the order of the declaration.
  rcases hws with _ | ⟨hname, _ | ⟨htype, _ | ⟨hkind, _ | ⟨hknown, _ | _⟩⟩⟩⟩
  simp only [List.map_cons, List.map_nil] at hfields
  simp [param?, hfields,
    required_of_holds hname fun _ => text?_of_holds,
    required_of_holds htype fun _ => text?_of_holds,
    orDefault_of_holds .value hkind fun _ => paramKind?_of_holds,
    optional_of_holds hknown fun _ _ _ => texts?_of_holds]

theorem returns?_of_holds {x : Returns}
    (h : r.holds (Encode.returns x) v = true) : returns? r v = some x := by
  rw [Encode.returns_eq] at h
  obtain ⟨ws, hfields, hws⟩ := Reader.fields?_of_holds (by simp) h
  rcases hws with _ | ⟨hvalue, _ | ⟨herror, _ | _⟩⟩
  simp only [List.map_cons, List.map_nil] at hfields
  simp [returns?, hfields,
    required_of_holds hvalue fun _ => text?_of_holds,
    required_of_holds herror fun _ => text?_of_holds]

theorem duration?_of_holds {p : CachePolicy} (hp : p.Writable)
    (h : r.holds (.text p.ttl.format) v = true) :
    duration? r v = some p.ttl := by
  simp [duration?, text?_of_holds h, hp.parse?_format]

theorem cachePolicy?_of_holds {p : CachePolicy} (hp : p.Writable)
    (h : r.holds (Encode.cachePolicy p) v = true) :
    cachePolicy? r v = some p := by
  rw [Encode.cachePolicy_eq] at h
  obtain ⟨ws, hfields, hws⟩ := Reader.fields?_of_holds (by simp) h
  rcases hws with _ | ⟨httl, _ | ⟨hlead, _ | ⟨hkey, _ | ⟨hjitter, hws⟩⟩⟩⟩
  rcases hws with _ | ⟨hthreshold, _ | _⟩
  simp only [List.map_cons, List.map_nil] at hfields
  -- The field holds the text of the time and not the time itself.
  have httl' : Reader.required (duration? r) _ = some p.ttl :=
    required_of_holds (f := fun d : Duration => .text d.format) httl fun _ =>
      duration?_of_holds hp
  simp [cachePolicy?, hfields, httl',
    orDefault_of_holds "" hlead fun _ => text?_of_holds,
    orDefault_of_holds "" hkey fun _ => text?_of_holds,
    orDefault_of_holds .zero hjitter fun _ => number?_of_holds,
    orDefault_of_holds .zero hthreshold fun _ => number?_of_holds]

theorem evictPolicy?_of_holds {p : EvictPolicy}
    (h : r.holds (Encode.evictPolicy p) v = true) :
    evictPolicy? r v = some p := by
  rw [Encode.evictPolicy_eq] at h
  obtain ⟨ws, hfields, hws⟩ := Reader.fields?_of_holds (by simp) h
  rcases hws with _ | ⟨hkeys, _ | _⟩
  simp only [List.map_cons, List.map_nil] at hfields
  simp [evictPolicy?, hfields,
    required_of_holds hkeys fun _ => texts?_of_holds]

theorem tracePolicy?_of_holds {p : TracePolicy}
    (h : r.holds (Encode.tracePolicy p) v = true) :
    tracePolicy? r v = some p := by
  rw [Encode.tracePolicy_eq] at h
  obtain ⟨ws, hfields, hws⟩ := Reader.fields?_of_holds (by simp) h
  rcases hws with _ | ⟨hspan, _ | ⟨hattributes, _ | _⟩⟩
  simp only [List.map_cons, List.map_nil] at hfields
  simp [tracePolicy?, hfields,
    optional_of_holds hspan fun _ _ _ => text?_of_holds,
    orDefault_of_holds [] hattributes fun _ => texts?_of_holds]

theorem method?_of_holds {m : Method} (hm : ∀ p ∈ m.cache, p.Writable)
    (h : r.holds (Encode.method m) v = true) : method? r v = some m := by
  rw [Encode.method_eq] at h
  obtain ⟨ws, hfields, hws⟩ := Reader.fields?_of_holds (by simp) h
  rcases hws with _ | ⟨hname, _ | ⟨hparams, _ | ⟨hreturns, hws⟩⟩⟩
  rcases hws with _ | ⟨hcache, _ | ⟨hevict, _ | ⟨htrace, _ | _⟩⟩⟩
  simp only [List.map_cons, List.map_nil] at hfields
  have hread : ∀ w, r.holds (.list (m.params.map Encode.param)) w = true →
      r.listOf (param? r) w = some m.params := fun _ hw =>
    listOf_of_holds hw fun _ _ _ => param?_of_holds
  simp [method?, hfields,
    required_of_holds hname fun _ => text?_of_holds,
    orDefault_of_holds [] (f := fun ps => .list (ps.map Encode.param)) hparams
      hread,
    required_of_holds hreturns fun _ => returns?_of_holds,
    optional_of_holds hcache fun p hp _ => cachePolicy?_of_holds (hm p hp),
    optional_of_holds hevict fun _ _ _ => evictPolicy?_of_holds,
    optional_of_holds htrace fun _ _ _ => tracePolicy?_of_holds]

theorem contract?_of_holds {c : Contract} (hc : c.Writable)
    (h : r.holds (Encode.contract c) v = true) : contract? r v = some c := by
  rw [Encode.contract_eq] at h
  obtain ⟨ws, hfields, hws⟩ := Reader.fields?_of_holds (by simp) h
  rcases hws with _ | ⟨hpackage, _ | ⟨hname, _ | ⟨hmethods, _ | _⟩⟩⟩
  simp only [List.map_cons, List.map_nil] at hfields
  have hread : ∀ w, r.holds (.list (c.methods.map Encode.method)) w = true →
      r.listOf (method? r) w = some c.methods := fun _ hw =>
    listOf_of_holds hw fun m hm _ => method?_of_holds (hc m hm)
  simp [contract?, hfields,
    required_of_holds hpackage fun _ => text?_of_holds,
    required_of_holds hname fun _ => text?_of_holds,
    orDefault_of_holds [] (f := fun ms => .list (ms.map Encode.method))
      hmethods hread]

/-- A value that holds the tree of a writable model decodes to that
model. -/
theorem model?_of_holds {m : PolicyModel} (hm : m.Writable)
    (h : r.holds (Encode.model m) v = true) : model? r v = some m := by
  rw [Encode.model_eq] at h
  obtain ⟨ws, hfields, hws⟩ := Reader.fields?_of_holds (by simp) h
  rcases hws with _ | ⟨hcontracts, _ | _⟩
  simp only [List.map_cons, List.map_nil] at hfields
  have hread : ∀ w,
      r.holds (.list (m.contracts.map Encode.contract)) w = true →
      r.listOf (contract? r) w = some m.contracts := fun _ hw =>
    listOf_of_holds hw fun c hc _ => contract?_of_holds (hm c hc)
  simp [model?, hfields,
    orDefault_of_holds [] (f := fun cs => .list (cs.map Encode.contract))
      hcontracts hread]

end Decode

/-! ## Equality -/

/-- Every number but NaN equals itself. -/
theorem Number.Binary.numEq_self {x : Number.Double} (h : x ≠ .nan) :
    x.numEq x = true := by
  cases x <;> simp_all [numEq]

theorem alike_self {α : Type} {same : α → α → Bool} {xs : List α}
    (h : ∀ x ∈ xs, same x x = true) : alike same xs xs = true := by
  induction xs with
  | nil => rfl
  | cons x xs ih =>
    rw [alike, h x List.mem_cons_self,
      ih fun y hy => h y (List.mem_cons_of_mem x hy), Bool.and_self]

theorem CachePolicy.Writable.sameAs_self {p : CachePolicy}
    (h : p.Writable) : p.sameAs p = true := by
  simp [CachePolicy.sameAs, Number.Binary.numEq_self h.jitter,
    Number.Binary.numEq_self h.threshold]

/-- A writable model equals itself. -/
theorem PolicyModel.Writable.sameAs_self {m : PolicyModel}
    (h : m.Writable) : m.sameAs m = true := by
  refine alike_self fun c hc => ?_
  have hmethods : alike Method.sameAs c.methods c.methods = true := by
    refine alike_self fun f hf => ?_
    cases hcache : f.cache with
    | none => simp [Method.sameAs, hcache]
    | some p =>
      simp [Method.sameAs, hcache, (h c hc f hf p hcache).sameAs_self]
  simp [Contract.sameAs, hmethods]

/-! ## Texts -/

/-- Whether the text of a tree is that of a document that holds the tree.
No more is asked of the text format. -/
def Yaml.ReadsBack (t : Tree) : Prop :=
  ∃ d ∈ Yaml.document? t.render,
    d.isBounded = true ∧ d.reader.holds t d.root = true

instance (t : Tree) : Decidable (Yaml.ReadsBack t) :=
  inferInstanceAs (Decidable (∃ d ∈ Yaml.document? t.render, _))

/-- A writable model is loaded from its text as it was written. -/
theorem PolicyModel.load_toYaml {m : PolicyModel} (hm : m.Writable)
    (htext : Yaml.ReadsBack (Encode.model m)) :
    PolicyModel.load m.toYaml = .ok m ∧ m.sameAs m = true := by
  obtain ⟨d, hd, hbounded, hroot⟩ := htext
  have hmodel : PolicyModel.ofDocument? d = some m := by
    rw [ofDocument?, if_pos hbounded, Decode.model?_of_holds hm hroot]
  have htext : PolicyModel.ofYaml? m.toYaml = some m := by
    rw [ofYaml?, toYaml, Option.mem_def.mp hd, Option.bind_some, hmodel]
  exact ⟨by rw [load, htext], hm.sameAs_self⟩

/-- A model with one cached and traced method.  Its only parameter is known
to have no fields, and its span has the default name. -/
def Sample.briefModel : PolicyModel :=
  ⟨[⟨"p", "A",
    [{ name := "f"
       params := [⟨"x", "X", .value, some []⟩]
       returns := ⟨"V", "E"⟩
       cache := some ⟨Duration.ofMilliseconds 1500, "", "", .zero, .zero⟩
       evict := none
       trace := some ⟨none, []⟩ }]⟩]⟩

theorem PolicyModel.load_toYaml_briefModel :
    PolicyModel.load Sample.briefModel.toYaml = .ok Sample.briefModel
      ∧ Sample.briefModel.sameAs Sample.briefModel = true := by
  refine PolicyModel.load_toYaml (by decide +kernel) ?_
  -- The characters are those of the pieces of the text, which are short.
  simp only [Sample.briefModel, Encode.model, Encode.contract, Encode.method,
    Encode.param, Encode.paramKind, Encode.returns, Encode.cachePolicy,
    Encode.tracePolicy, Encode.texts, Encode.optional, List.map_cons,
    List.map_nil, List.append_nil, List.cons_append, List.nil_append,
    Yaml.ReadsBack, Yaml.document?, Yaml.tokens?, Tree.render,
    Tree.memberLines, Tree.itemLines, Tree.behindKey, Tree.behindDash,
    Yaml.textLines, Yaml.indentation, String.toList_append,
    String.toList_ofList]
  decide +kernel

end PolicyWeave
