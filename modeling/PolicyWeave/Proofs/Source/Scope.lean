import PolicyWeave.Proofs.Template.Dependencies
import PolicyWeave.Sample.Contracts
import PolicyWeave.Source.Decorator

/-!
# Scope of method bodies

A body binds names of its own among those of its method's parameters.  Here
a name is followed up through the bindings above it, to see whether it still
stands for what the caller passed.

There are four groups.

* `originOf` is the origin of a name.  Where bindings only copy a name under
  that same name, or bind it anew, the origin is known from the names bound
  anew (`originOf_eq`).
* `Body.baseCalls` and `Body.operands` are the places that matter: the calls
  of the inner implementation, and the operands of the keys.
* `Body.Scoped` says what the bodies of both decorators do there, with the
  names that they bind anew.
* `Body.Hygienic` asks that no such name gets in the way, and
  `ContractPlan.bodies_hygienic_iff` says when that is so.

Nothing keeps a parameter from having one of the names that a body binds.
Then the inner call is given the value of the body, not the caller's.
-/

namespace PolicyWeave

/-! ## Origin of a name -/

/-- Where a name comes from: the caller, or a binding that is no copy. -/
inductive NameOrigin where
  | caller (name : String)
  | generated (name : String)
  deriving DecidableEq

/-- The name that a value is an owned copy or a clone of. -/
def BoundValue.copied? : BoundValue → Option String
  | .ownedCopy name => some name
  | .clone name => some name
  | _ => none

/-- The origin of a name under bindings, the nearest first.  A copy is
followed further up. -/
def originOf : List Binding → String → NameOrigin
  | [], name => .caller name
  | b :: above, name =>
    if b.name = name then
      match b.value.copied? with
      | some source => originOf above source
      | none => .generated b.name
    else originOf above name

/-- Whether a binding copies the name that it binds, or binds one of the
given names anew. -/
def Binding.Within (own : List String) (b : Binding) : Prop :=
  b.value.copied? = some b.name ∨ b.value.copied? = none ∧ b.name ∈ own

section Origin

variable {own : List String} {above : List Binding} {name : String}

/-- A name that is not bound anew stands for what the caller passed. -/
theorem originOf_of_not_mem (h : ∀ b ∈ above, b.Within own)
    (hname : name ∉ own) : originOf above name = .caller name := by
  induction above with
  | nil => rfl
  | cons b above ih =>
    obtain ⟨hb, habove⟩ := List.forall_mem_cons.mp h
    by_cases heq : b.name = name
    · rcases hb with hcopied | ⟨-, hown⟩
      · simpa [originOf, heq, hcopied] using ih habove
      · exact absurd (heq ▸ hown) hname
    · simpa [originOf, heq] using ih habove

/-- A name that is bound anew stands for that binding. -/
theorem originOf_of_bound (h : ∀ b ∈ above, b.Within own)
    (hbound : ∃ b ∈ above, b.value.copied? = none ∧ b.name = name) :
    originOf above name = .generated name := by
  induction above with
  | nil => simp at hbound
  | cons b above ih =>
    obtain ⟨hb, habove⟩ := List.forall_mem_cons.mp h
    simp only [List.mem_cons, exists_eq_or_imp] at hbound
    by_cases heq : b.name = name
    · rcases hb with hcopied | ⟨hanew, -⟩
      · -- a copy binds nothing anew, so the binding is further up
        have hbound := hbound.resolve_left (by simp [hcopied])
        simpa [originOf, heq, hcopied] using ih habove hbound
      · simp [originOf, heq, hanew]
    · have hbound := hbound.resolve_left fun hfirst => heq hfirst.2
      simpa [originOf, heq] using ih habove hbound

/-- The origin of a name, where just the given names are bound anew. -/
theorem originOf_eq (h : ∀ b ∈ above, b.Within own)
    (hown : ∀ n ∈ own, ∃ b ∈ above, b.value.copied? = none ∧ b.name = n)
    (name : String) :
    originOf above name =
      if name ∈ own then .generated name else .caller name := by
  by_cases hname : name ∈ own
  · rw [if_pos hname, originOf_of_bound h (hown name hname)]
  · rw [if_neg hname, originOf_of_not_mem h hname]

end Origin

/-! ## Places in a body -/

/-- A call of the inner implementation, with the bindings above it, the
nearest first. -/
structure BaseCall where
  above : List Binding
  method : String
  args : List String

/-- The parameter that a field path of a key starts with, with the bindings
above that key. -/
structure Operand where
  above : List Binding
  name : String

/-- The inner call that a binding waits for. -/
def BoundValue.call? : BoundValue → Option (String × List String)
  | .forwardedCall method args => some (method, args)
  | _ => none

/-- The keys that a binding renders. -/
def BoundValue.keyTemplates : BoundValue → List KeyTemplate
  | .key k => [k]
  | .keys ks => ks
  | _ => []

/-- The inner call of a closing expression. -/
def Tail.call? : Tail → Option (String × List String)
  | .forward method args => some (method, args)
  | .traced method args => some (method, args)
  | .populate _ _ _ method args => some (method, args.map Argument.name)
  | .evictOnSuccess _ => none

/-- The bindings of the loader that a closing expression hands over. -/
def Tail.loader : Tail → List Binding
  | .populate _ _ loader _ _ => loader
  | _ => []

/-- Each binding with those above it, the nearest first. -/
def placed (above : List Binding) :
    List Binding → List (List Binding × Binding)
  | [] => []
  | b :: rest => (above, b) :: placed (b :: above) rest

/-- The inner call of a placed binding. -/
def BaseCall.ofBinding? (x : List Binding × Binding) : Option BaseCall :=
  x.2.value.call?.map fun call => ⟨x.1, call.1, call.2⟩

/-- The operands of a key under bindings. -/
def KeyTemplate.operands (above : List Binding) (k : KeyTemplate) :
    List Operand :=
  k.paths.map fun path => ⟨above, path.param⟩

/-- The operands of the keys of a placed binding. -/
def Operand.ofBinding (x : List Binding × Binding) : List Operand :=
  x.2.value.keyTemplates.flatMap (KeyTemplate.operands x.1)

namespace Body

/-- The bindings above the inner call of the closing expression: those of
the loader, then those of the body. -/
def closingScope (b : Body) : List Binding :=
  b.tail.loader.reverse ++ b.bindings.reverse

/-- All bindings of a body, those of the loader last. -/
def placedBindings (b : Body) : List (List Binding × Binding) :=
  placed [] b.bindings ++ placed b.bindings.reverse b.tail.loader

/-- The calls of the inner implementation. -/
def baseCalls (b : Body) : List BaseCall :=
  b.placedBindings.filterMap BaseCall.ofBinding?
    ++ (b.tail.call?.map fun call =>
        ⟨b.closingScope, call.1, call.2⟩).toList

/-- The operands of the keys. -/
def operands (b : Body) : List Operand :=
  b.placedBindings.flatMap Operand.ofBinding

end Body

theorem placed_append {above xs ys : List Binding} :
    placed above (xs ++ ys)
      = placed above xs ++ placed (xs.reverse ++ above) ys := by
  induction xs generalizing above with
  | nil => rfl
  | cons x xs ih => simp [placed, ih]

theorem filterMap_placed_eq_nil {above bs : List Binding}
    (h : ∀ b ∈ bs, b.value.call? = none) :
    (placed above bs).filterMap BaseCall.ofBinding? = [] := by
  induction bs generalizing above with
  | nil => rfl
  | cons b bs ih =>
    obtain ⟨hb, hbs⟩ := List.forall_mem_cons.mp h
    simp [placed, BaseCall.ofBinding?, hb, ih hbs]

theorem flatMap_placed_eq_nil {above bs : List Binding}
    (h : ∀ b ∈ bs, b.value.keyTemplates = []) :
    (placed above bs).flatMap Operand.ofBinding = [] := by
  induction bs generalizing above with
  | nil => rfl
  | cons b bs ih =>
    obtain ⟨hb, hbs⟩ := List.forall_mem_cons.mp h
    simp [placed, Operand.ofBinding, hb, ih hbs]

/-! ## The bodies of the decorators -/

/-- The names that the caching body of a method binds anew above its inner
call. -/
def MethodPlan.cacheLocals (m : MethodPlan) : List String :=
  (if m.evict.isSome then [Names.evict] else [])
    ++ if m.cache.isSome then [Names.key, Names.inner] else []

/-- The names that the tracing body of a method binds anew above its inner
call. -/
def MethodPlan.traceLocals (m : MethodPlan) : List String :=
  if m.trace.isSome then [Names.span] else []

/-- What a body does that binds names of its own above its inner call.  It
calls the method once, with its parameters in order, and each of them is the
caller's unless its name is bound anew.  Its keys take value parameters. -/
structure Body.Scoped (m : Method) (own : List String) (b : Body) :
    Prop where
  call : ∃ above,
    b.baseCalls = [⟨above, m.name, m.params.map Param.name⟩]
      ∧ ∀ name, originOf above name =
          if name ∈ own then .generated name else .caller name
  operands : ∀ o ∈ b.operands,
    o.name ∈ m.valueParams.map Param.name
      ∧ (o.name ∉ own → originOf o.above o.name = .caller o.name)

theorem forwardBody_scoped (m : Method) : (forwardBody m).Scoped m [] := by
  refine ⟨⟨[], rfl, fun name => by simp [originOf]⟩, ?_⟩
  intro o ho
  cases ho

/-- The tracing body of a method hides its span. -/
theorem traceBody_scoped (p : MethodPlan) :
    (traceBody p).Scoped p.method p.traceLocals := by
  cases htrace : p.trace with
  | none =>
    simpa [traceBody, MethodPlan.traceLocals, htrace] using
      forwardBody_scoped p.method
  | some t =>
    simp only [traceBody, MethodPlan.traceLocals, htrace]
    refine ⟨⟨[_], rfl, originOf_eq ?_ ?_⟩, ?_⟩
    · simp [Binding.Within, BoundValue.copied?]
    · simp [BoundValue.copied?]
    · intro o ho
      cases ho

section Cache

variable {contract : String} {p : MethodPlan} {b : Binding}

/-- The binding of what a method evicts, if it evicts anything. -/
def evictBindings (p : MethodPlan) : List Binding :=
  (p.evict.map evictBinding).toList

theorem eq_of_mem_evictBindings (h : b ∈ evictBindings p) :
    ∃ ks, p.evict = some ks ∧ b = evictBinding ks := by
  simpa [evictBindings, eq_comm] using h

theorem within_of_mem_evictBindings (h : b ∈ evictBindings p) :
    b.value.copied? = none ∧ b.name ∈ p.cacheLocals := by
  obtain ⟨ks, hevict, rfl⟩ := eq_of_mem_evictBindings h
  exact ⟨rfl, by simp [MethodPlan.cacheLocals, hevict, evictBinding]⟩

/-- Whether a binding neither calls the inner implementation nor renders a
key. -/
structure Binding.Quiet (b : Binding) : Prop where
  call : b.value.call? = none
  keys : b.value.keyTemplates = []

theorem quiet_of_mem_capturedParams {m : Method}
    (h : b ∈ capturedParams m) : b.Quiet := by
  obtain ⟨q, -, rfl⟩ := List.mem_map.mp h
  exact ⟨rfl, rfl⟩

theorem quiet_of_mem_loaderBindings {m : Method}
    (h : b ∈ loaderBindings m) : b.Quiet := by
  rcases List.mem_cons.mp h with rfl | h
  · exact ⟨rfl, rfl⟩
  · obtain ⟨q, -, rfl⟩ := List.mem_map.mp h
    exact ⟨rfl, rfl⟩

/-- The body of a cached method. -/
theorem cacheBody_of_cache {cache : CachePlan} (h : p.cache = some cache) :
    cacheBody contract p =
      ⟨evictBindings p ++ ⟨Names.key, .key cache.key⟩
          :: ⟨Names.inner, .innerField⟩ :: capturedParams p.method,
        .populate (Names.settings contract p.method.name) p.evict.isSome
          (loaderBindings p.method) p.method.name
          (loaderArguments p.method)⟩ := by
  simp [cacheBody, h, evictBindings]

/-- The bindings around the inner call of a cached method: copies of the
parameters, and the names of the body. -/
theorem within_of_mem_closingScope (hcache : p.cache.isSome)
    (h : b ∈ (cacheBody contract p).closingScope) :
    b.Within p.cacheLocals := by
  have hinner : Names.inner ∈ p.cacheLocals := by
    simp [MethodPlan.cacheLocals, hcache]
  have hkey : Names.key ∈ p.cacheLocals := by
    simp [MethodPlan.cacheLocals, hcache]
  obtain ⟨cache, hcache⟩ := Option.isSome_iff_exists.mp hcache
  simp only [cacheBody_of_cache hcache, Body.closingScope, Tail.loader,
    loaderBindings, List.mem_append, List.mem_reverse, List.mem_cons] at h
  rcases h with (rfl | h) | h | rfl | rfl | h
  · exact .inr ⟨rfl, hinner⟩
  · obtain ⟨q, -, rfl⟩ := List.mem_map.mp h
    exact .inl rfl
  · exact .inr (within_of_mem_evictBindings h)
  · exact .inr ⟨rfl, hkey⟩
  · exact .inr ⟨rfl, hinner⟩
  · obtain ⟨q, -, rfl⟩ := List.mem_map.mp h
    exact .inl rfl

/-- The body of a cached method binds each of its names above its inner
call. -/
theorem exists_mem_closingScope (hcache : p.cache.isSome) {name : String}
    (h : name ∈ p.cacheLocals) :
    ∃ b ∈ (cacheBody contract p).closingScope,
      b.value.copied? = none ∧ b.name = name := by
  obtain ⟨cache, hcache⟩ := Option.isSome_iff_exists.mp hcache
  simp only [cacheBody_of_cache hcache, Body.closingScope, Tail.loader,
    List.mem_append, List.mem_reverse, List.mem_cons]
  simp only [MethodPlan.cacheLocals, hcache, Option.isSome_some, ↓reduceIte,
    List.mem_append, List.mem_ite_nil_right, List.mem_cons, List.not_mem_nil,
    or_false] at h
  rcases h with ⟨hevict, rfl⟩ | rfl | rfl
  · obtain ⟨ks, hevict⟩ := Option.isSome_iff_exists.mp hevict
    exact ⟨evictBinding ks, by simp [evictBindings, hevict], rfl, rfl⟩
  · exact ⟨⟨Names.key, .key cache.key⟩, by simp, rfl, rfl⟩
  · exact ⟨⟨Names.inner, .innerField⟩, by simp, rfl, rfl⟩

/-- The inner call of a cached method is that of its loader. -/
theorem baseCalls_cacheBody (hcache : p.cache.isSome) :
    (cacheBody contract p).baseCalls =
      [⟨(cacheBody contract p).closingScope, p.method.name,
        p.method.params.map Param.name⟩] := by
  obtain ⟨cache, hcache⟩ := Option.isSome_iff_exists.mp hcache
  have hbindings : ∀ b ∈ (cacheBody contract p).bindings,
      b.value.call? = none := by
    intro b hb
    simp only [cacheBody_of_cache hcache, List.mem_append,
      List.mem_cons] at hb
    rcases hb with hb | rfl | rfl | hb
    · obtain ⟨ks, -, rfl⟩ := eq_of_mem_evictBindings hb
      rfl
    · rfl
    · rfl
    · exact (quiet_of_mem_capturedParams hb).call
  have hloader : ∀ b ∈ (cacheBody contract p).tail.loader,
      b.value.call? = none := by
    rw [cacheBody_of_cache hcache]
    exact fun b hb => (quiet_of_mem_loaderBindings hb).call
  rw [Body.baseCalls, Body.placedBindings, List.filterMap_append,
    filterMap_placed_eq_nil hbindings, filterMap_placed_eq_nil hloader]
  simp [cacheBody_of_cache hcache, Tail.call?, loaderArguments]

/-- The operands of all keys of a method: those of the keys to evict, then
those of the key of the cache, which stands under the keys to evict. -/
def MethodPlan.operands (p : MethodPlan) : List Operand :=
  (p.evict.getD []).flatMap (KeyTemplate.operands [])
    ++ (p.cache.map CachePlan.key).toList.flatMap
        (KeyTemplate.operands (evictBindings p))

/-- A caching body renders all keys of its method, and no others. -/
theorem operands_cacheBody :
    (cacheBody contract p).operands = p.operands := by
  unfold MethodPlan.operands
  cases hcache : p.cache with
  | some cache =>
    have hcaptured (above : List Binding) :
        (placed above (capturedParams p.method)).flatMap Operand.ofBinding
          = [] :=
      flatMap_placed_eq_nil fun b hb => (quiet_of_mem_capturedParams hb).keys
    have hloader (above : List Binding) :
        (placed above (loaderBindings p.method)).flatMap Operand.ofBinding
          = [] :=
      flatMap_placed_eq_nil fun b hb => (quiet_of_mem_loaderBindings hb).keys
    simp only [Body.operands, Body.placedBindings, cacheBody_of_cache hcache,
      Tail.loader, placed_append, placed, List.flatMap_append,
      List.flatMap_cons, hcaptured, hloader]
    cases hevict : p.evict <;>
      simp [evictBindings, evictBinding, hevict, placed, Operand.ofBinding,
        BoundValue.keyTemplates]
  | none =>
    cases hevict : p.evict <;>
      simp [Body.operands, Body.placedBindings, cacheBody, hcache, hevict,
        placed, Operand.ofBinding, BoundValue.keyTemplates, evictBinding,
        Tail.loader, forwardBody]

/-- The caching body of a method whose keys are scoped. -/
theorem cacheBody_scoped (contract : String)
    (hkeys : ∀ k ∈ p.keyTemplates, k.Scoped p.method) :
    (cacheBody contract p).Scoped p.method p.cacheLocals := by
  refine ⟨?_, ?_⟩
  · cases hcache : p.cache with
    | some cache =>
      have hcache : p.cache.isSome := by simp [hcache]
      exact ⟨_, baseCalls_cacheBody hcache,
        originOf_eq (fun b hb => within_of_mem_closingScope hcache hb)
          (fun n hn => exists_mem_closingScope hcache hn)⟩
    | none =>
      cases hevict : p.evict with
      | some ks =>
        simp only [cacheBody, MethodPlan.cacheLocals, hcache, hevict]
        refine ⟨[_], rfl, originOf_eq ?_ ?_⟩
        · simp [evictBinding, Binding.Within, BoundValue.copied?]
        · simp [evictBinding, BoundValue.copied?]
      | none =>
        simpa [cacheBody, MethodPlan.cacheLocals, hcache, hevict] using
          (forwardBody_scoped p.method).call
  · intro o ho
    obtain ⟨k, hk, above, habove, hmem⟩ : ∃ k ∈ p.keyTemplates,
        ∃ above, (∀ b ∈ above, b ∈ evictBindings p)
          ∧ o ∈ k.operands above := by
      rw [operands_cacheBody, MethodPlan.operands] at ho
      rcases List.mem_append.mp ho with ho | ho
      · obtain ⟨k, hk, hmem⟩ := List.mem_flatMap.mp ho
        exact ⟨k, List.mem_append_right _ hk, [], by simp, hmem⟩
      · obtain ⟨k, hk, hmem⟩ := List.mem_flatMap.mp ho
        exact ⟨k, List.mem_append_left _ hk, _, fun _ => id, hmem⟩
    obtain ⟨path, hpath, rfl⟩ := List.mem_map.mp hmem
    obtain ⟨q, hq, hname⟩ := (hkeys k hk).values path.param
      (KeyTemplate.mem_dependencies_iff.mpr ⟨path, hpath, rfl⟩)
    refine ⟨List.mem_map.mpr ⟨q, hq, hname⟩, ?_⟩
    exact originOf_of_not_mem
      fun b hb => .inr (within_of_mem_evictBindings (habove b hb))

end Cache

/-! ## Hygiene -/

/-- Whether a body uses names as its method does: it calls the method once,
with the caller's parameters in order, and its keys take the caller's
parameters. -/
structure Body.Hygienic (m : Method) (b : Body) : Prop where
  call : ∃ above,
    b.baseCalls = [⟨above, m.name, m.params.map Param.name⟩]
      ∧ ∀ q ∈ m.params, originOf above q.name = .caller q.name
  operands : ∀ o ∈ b.operands,
    o.name ∈ m.params.map Param.name
      ∧ originOf o.above o.name = .caller o.name

/-- A body is hygienic exactly if no parameter has a name that the body
binds anew. -/
theorem Body.Scoped.hygienic_iff {m : Method} {own : List String} {b : Body}
    (h : b.Scoped m own) :
    b.Hygienic m ↔ ∀ q ∈ m.params, q.name ∉ own := by
  obtain ⟨above, hcalls, horigin⟩ := h.call
  constructor
  · intro hygienic q hq hown
    obtain ⟨above', hcalls', hcaller⟩ := hygienic.call
    obtain rfl : above = above' := by simpa [hcalls] using hcalls'
    have hname := hcaller q hq
    rw [horigin, if_pos hown] at hname
    cases hname
  · intro hfree
    refine ⟨⟨above, hcalls, ?_⟩, ?_⟩
    · intro q hq
      rw [horigin, if_neg (hfree q hq)]
    · intro o ho
      obtain ⟨hmem, hcaller⟩ := h.operands o ho
      obtain ⟨q, hq, hname⟩ := List.mem_map.mp hmem
      have hq := List.mem_of_mem_filter hq
      refine ⟨List.mem_map.mpr ⟨q, hq, hname⟩, hcaller ?_⟩
      exact hname ▸ hfree q hq

/-- The bodies of a decorator stand beside the methods of its plan. -/
theorem forall₂_bodies {p : ContractPlan} {f : MethodPlan → Body}
    {R : MethodPlan → Method × Body → Prop} :
    List.Forall₂ R p.methods (p.methods.map fun m => (m.method, f m)) ↔
      ∀ m ∈ p.methods, R m (m.method, f m) := by
  rw [List.forall₂_map_right_iff, List.forall₂_same]

/-- What the bodies of a planned contract do with names.  The parameters of
a method have different names.  Each body calls its method once, with the
parameters in order; a caching body renders all keys of the method, from
value parameters.  A parameter and an operand are the caller's unless the
body binds that very name, so a body is hygienic exactly if no parameter has
such a name. -/
theorem ContractPlan.bodies_hygienic_iff {table : BuiltinTable} {c : Contract}
    {p : ContractPlan} (hplan : c.plan table = .ok p) :
    (∀ m ∈ p.methods, (m.method.params.map Param.name).Nodup)
      ∧ List.Forall₂
          (fun m f => f.1 = m.method ∧ f.2.operands = m.operands
            ∧ f.2.Scoped m.method m.cacheLocals
            ∧ (f.2.Hygienic m.method ↔
                ∀ q ∈ m.method.params, q.name ∉ m.cacheLocals))
          p.methods (cacheDecorator p).functions
      ∧ List.Forall₂
          (fun m f => f.1 = m.method ∧ f.2.Scoped m.method m.traceLocals
            ∧ (f.2.Hygienic m.method ↔
                ∀ q ∈ m.method.params, q.name ∉ m.traceLocals))
          p.methods (traceDecorator p).functions := by
  refine ⟨?_, ?_, ?_⟩
  · intro m hm
    obtain ⟨m, hmem, rfl⟩ := Contract.exists_of_mem_plan hplan hm
    exact Contract.nodup_param_names hplan hmem
  · refine forall₂_bodies.mpr ?_
    intro m hm
    have hscoped := cacheBody_scoped p.contract.name
      fun k hk => scoped_of_mem_keyTemplates hplan hm hk
    exact ⟨rfl, operands_cacheBody, hscoped, hscoped.hygienic_iff⟩
  · refine forall₂_bodies.mpr ?_
    intro m hm
    have hscoped := traceBody_scoped m
    exact ⟨rfl, hscoped, hscoped.hygienic_iff⟩

/-- The bodies of the user service are hygienic. -/
theorem ContractPlan.hygienic_userService :
    ∃ p, Sample.userService.plan .standard = .ok p ∧
      ∀ m ∈ p.methods,
        (cacheBody p.contract.name m).Hygienic m.method
          ∧ (traceBody m).Hygienic m.method := by
  have hplan := Contract.plan_of_planErrors_eq_nil
    (by decide +kernel : Sample.userService.planErrors .standard = [])
  have hfree : ∀ m ∈ Sample.userService.methods.map
      (Method.plan .standard Sample.userService),
      (∀ q ∈ m.method.params, q.name ∉ m.cacheLocals)
        ∧ ∀ q ∈ m.method.params, q.name ∉ m.traceLocals := by
    decide +kernel
  refine ⟨_, hplan, ?_⟩
  intro m hm
  obtain ⟨-, hcache, htrace⟩ := bodies_hygienic_iff hplan
  obtain ⟨-, -, -, hcache⟩ := forall₂_bodies.mp hcache m hm
  obtain ⟨-, -, htrace⟩ := forall₂_bodies.mp htrace m hm
  exact ⟨hcache.mpr (hfree m hm).1, htrace.mpr (hfree m hm).2⟩

/-- A cached method with a parameter of the name under which its body keeps
the inner implementation. -/
def Sample.compare : Method where
  name := "compare"
  params :=
    [param "id" "&str" .value none,
      param "__inner" "&Arc<dyn Directory>" .value none]
  returns := returns "bool"
  cache := some
    ⟨Duration.ofMilliseconds 1000, "", "\x7bid\x7d", percent 0, percent 0⟩
  evict := none
  trace := none

/-- The contract of that method. -/
def Sample.comparer : Contract := ⟨"app::users", "Directory", [compare]⟩

/-- The contract has a plan, and the inner call of its caching body is given
the inner implementation in place of the second argument. -/
theorem ContractPlan.not_hygienic_comparer :
    ∃ p, Sample.comparer.plan .standard = .ok p ∧
      ∃ f ∈ (cacheDecorator p).functions,
        ¬ f.2.Hygienic f.1
          ∧ ∃ above, f.2.baseCalls = [⟨above, "compare", ["id", "__inner"]⟩]
            ∧ originOf above "id" = .caller "id"
            ∧ originOf above "__inner" = .generated "__inner" := by
  have hplan := Contract.plan_of_planErrors_eq_nil
    (by decide +kernel : Sample.comparer.planErrors .standard = [])
  refine ⟨_, hplan, _, List.mem_cons_self, ?_⟩
  have hscoped := cacheBody_scoped "Directory"
    fun k hk => scoped_of_mem_keyTemplates hplan List.mem_cons_self hk
  obtain ⟨above, hcalls, horigin⟩ := hscoped.call
  refine ⟨?_, above, hcalls, ?_, ?_⟩
  · intro hygienic
    exact absurd (hscoped.hygienic_iff.mp hygienic) (by decide +kernel)
  · exact (horigin _).trans (by decide +kernel)
  · exact (horigin _).trans (by decide +kernel)

end PolicyWeave
