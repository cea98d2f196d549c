import PolicyWeave.Plan

/-!
# What a plan rests on

A contract has a plan when nothing stands in its way.  This module reads
off a plan what later proofs need of it.

* `Contract.plan_eq_ok_iff`: there is a plan exactly when the list of
  errors is empty.
* `Contract.compile_of_mem_keyTemplates`: every key template of a plan was
  compiled from a template of one of the methods, and
  `Contract.exists_mem_keyTemplates`: each of these is there.
* `Contract.isItemName_of_mem_params` and `Contract.nodup_param_names`:
  the parameters of a planned contract have names that an item may have,
  and no two of one method have the same.
* `Contract.isItemName_of_mem_methods` and
  `Contract.nodup_method_names`: so have its methods.
-/

namespace PolicyWeave

/-! ## Key templates of a plan -/

/-- The key templates of a method: the one of its cache policy, then
those of its evict policy. -/
def MethodPlan.keyTemplates (m : MethodPlan) : List KeyTemplate :=
  (m.cache.map CachePlan.key).toList ++ m.evict.getD []

/-- The key templates of a plan, method by method. -/
def ContractPlan.keyTemplates (p : ContractPlan) : List KeyTemplate :=
  p.methods.flatMap MethodPlan.keyTemplates

namespace Method

/-- A text that compiles gives what it compiles to. -/
theorem compile_of_compiled?_eq_some {table : BuiltinTable} {c : Contract}
    {m : Method} {t : String} {k : KeyTemplate}
    (h : compiled? table c m t = some k) :
    KeyTemplate.compile table c m t = .ok k := by
  unfold compiled? at h
  cases hcompile : KeyTemplate.compile table c m t with
  | error e => simp [hcompile, Except.toOption] at h
  | ok k' =>
    obtain rfl : k' = k := by simpa [hcompile, Except.toOption] using h
    rfl

/-- The plan of a cache policy is the policy with its key compiled. -/
theorem cache_plan_eq_some_iff {table : BuiltinTable} {c : Contract}
    {m : Method} {cache : CachePlan} :
    (m.plan table c).cache = some cache ↔
      ∃ q, m.cache = some q ∧
        ∃ k, compiled? table c m q.effectiveTemplate = some k ∧
          ⟨k, q.ttl, q.jitterPercent, q.refreshThresholdPercent⟩
            = cache := by
  simp [Method.plan, Option.bind_eq_some_iff]

/-- The key templates of a planned method are those that its templates
compile to, in order. -/
theorem keyTemplates_plan (table : BuiltinTable) (c : Contract)
    (m : Method) :
    (m.plan table c).keyTemplates
      = m.templates.filterMap (compiled? table c m) := by
  have hcache : ((m.plan table c).cache.map CachePlan.key).toList
      = (m.cache.map CachePolicy.effectiveTemplate).toList.filterMap
          (compiled? table c m) := by
    cases hpolicy : m.cache with
    | none => simp [plan, hpolicy]
    | some p =>
      cases hkey : compiled? table c m p.effectiveTemplate <;>
        simp [plan, hpolicy, hkey]
  have hevict : (m.plan table c).evict.getD []
      = ((m.evict.map EvictPolicy.keys).getD []).filterMap
          (compiled? table c m) := by
    cases hpolicy : m.evict <;> simp [plan, hpolicy]
  rw [MethodPlan.keyTemplates, hcache, hevict, templates,
    List.filterMap_append]

theorem compile_of_mem_keyTemplates {table : BuiltinTable} {c : Contract}
    {m : Method} {k : KeyTemplate} (h : k ∈ (m.plan table c).keyTemplates) :
    ∃ t ∈ m.templates, KeyTemplate.compile table c m t = .ok k := by
  rw [keyTemplates_plan] at h
  obtain ⟨t, ht, hk⟩ := List.mem_filterMap.mp h
  exact ⟨t, ht, compile_of_compiled?_eq_some hk⟩

/-- A method without template errors compiles each of its templates. -/
theorem exists_compile_of_templateErrors_eq_nil {table : BuiltinTable}
    {c : Contract} {m : Method} (h : m.templateErrors table c = [])
    {t : String} (ht : t ∈ m.templates) :
    ∃ k, KeyTemplate.compile table c m t = .ok k := by
  have hnone := List.filterMap_eq_nil_iff.mp h t ht
  cases hcompile : KeyTemplate.compile table c m t with
  | ok k => exact ⟨k, rfl⟩
  | error e => simp [hcompile] at hnone

end Method

/-! ## Planned contracts -/

namespace Contract

/-- There is a plan exactly when nothing stands in its way. -/
theorem plan_eq_ok_iff {table : BuiltinTable} {c : Contract}
    {p : ContractPlan} :
    c.plan table = .ok p ↔
      c.planErrors table = [] ∧
        p = ⟨c, c.methods.map (Method.plan table c)⟩ := by
  unfold plan
  cases c.planErrors table with
  | nil =>
    constructor
    · intro h
      exact ⟨rfl, by simpa using h.symm⟩
    · intro heq
      obtain ⟨-, rfl⟩ := heq
      rfl
  | cons e es => simp

/-- A contract with nothing in the way has a plan of all its methods. -/
theorem plan_of_planErrors_eq_nil {table : BuiltinTable} {c : Contract}
    (h : c.planErrors table = []) :
    c.plan table = .ok ⟨c, c.methods.map (Method.plan table c)⟩ :=
  plan_eq_ok_iff.mpr ⟨h, rfl⟩

/-- The methods of a plan are those of the contract, planned. -/
theorem exists_of_mem_plan {table : BuiltinTable} {c : Contract}
    {p : ContractPlan} (h : c.plan table = .ok p) {m : MethodPlan}
    (hm : m ∈ p.methods) : ∃ n ∈ c.methods, n.plan table c = m := by
  obtain ⟨-, rfl⟩ := plan_eq_ok_iff.mp h
  exact List.mem_map.mp hm

/-- A contract with a plan breaks no rule. -/
theorem violations_eq_nil_of_plan {table : BuiltinTable} {c : Contract}
    {p : ContractPlan} (h : c.plan table = .ok p) : c.violations = [] := by
  have herrors := (plan_eq_ok_iff.mp h).1
  exact (List.append_eq_nil_iff.mp herrors).1

/-- Every key template of a plan was compiled from a template of one of
the methods. -/
theorem compile_of_mem_keyTemplates {table : BuiltinTable} {c : Contract}
    {p : ContractPlan} {k : KeyTemplate} (h : c.plan table = .ok p)
    (hk : k ∈ p.keyTemplates) :
    ∃ m ∈ c.methods, ∃ t ∈ m.templates,
      KeyTemplate.compile table c m t = .ok k := by
  obtain ⟨_, hplan, hk⟩ := List.mem_flatMap.mp hk
  obtain ⟨m, hm, rfl⟩ := exists_of_mem_plan h hplan
  exact ⟨m, hm, Method.compile_of_mem_keyTemplates hk⟩

/-- Every template of a planned contract is compiled. -/
theorem exists_mem_keyTemplates {table : BuiltinTable} {c : Contract}
    {p : ContractPlan} (h : c.plan table = .ok p) {m : Method}
    (hm : m ∈ c.methods) {t : String} (ht : t ∈ m.templates) :
    ∃ k ∈ p.keyTemplates, KeyTemplate.compile table c m t = .ok k := by
  obtain ⟨herrors, rfl⟩ := plan_eq_ok_iff.mp h
  have htemplates := (List.append_eq_nil_iff.mp herrors).2
  obtain ⟨k, hk⟩ := Method.exists_compile_of_templateErrors_eq_nil
    (List.flatMap_eq_nil_iff.mp htemplates m hm) ht
  refine ⟨k, List.mem_flatMap.mpr ⟨_, List.mem_map_of_mem hm, ?_⟩, hk⟩
  rw [Method.keyTemplates_plan]
  exact List.mem_filterMap.mpr
    ⟨t, ht, by rw [Method.compiled?, hk, Except.toOption]⟩

/-- Names that differ from those seen and from each other still do so with
one more in front that was not seen. -/
theorem nodup_and_unseen_cons {α : Type} {name : α → String}
    {seen : List String} {x : α} {xs : List α} (hx : name x ∉ seen)
    (h : (xs.map name).Nodup ∧ ∀ y ∈ xs, name y ∉ name x :: seen) :
    ((x :: xs).map name).Nodup ∧ ∀ y ∈ x :: xs, name y ∉ seen := by
  obtain ⟨hnodup, hunseen⟩ := h
  refine ⟨?_, ?_⟩
  · rw [List.map_cons, List.nodup_cons]
    refine ⟨?_, hnodup⟩
    intro hmem
    obtain ⟨y, hy, hname⟩ := List.mem_map.mp hmem
    exact hunseen y hy (by simp [hname])
  · intro y hy
    rcases List.mem_cons.mp hy with rfl | hy
    · exact hx
    · exact fun hseen => hunseen y hy (by simp [hseen])

/-! ## Names of parameters -/

/-- Parameters without violations have names that an item may have. -/
theorem isItemName_of_paramViolations_eq_nil {seen : List String}
    {index : Nat} {ps : List Param}
    (h : paramViolations seen index ps = []) :
    ∀ q ∈ ps, Text.isItemName q.name = true := by
  induction ps generalizing seen index with
  | nil => simp
  | cons p ps ih =>
    simp only [paramViolations, List.append_eq_nil_iff] at h
    obtain ⟨⟨⟨hname, -⟩, -⟩, hrest⟩ := h
    intro q hq
    rcases List.mem_cons.mp hq with rfl | hq
    · simpa [nameViolations] using hname
    · exact ih hrest q hq

/-- Methods without violations have none each. -/
theorem violations_eq_nil_of_methodViolations_eq_nil {contract : String}
    {seen : List String} {ms : List Method}
    (h : methodViolations contract seen ms = []) :
    ∀ m ∈ ms, m.violations = [] := by
  induction ms generalizing seen with
  | nil => simp
  | cons m ms ih =>
    simp only [methodViolations, List.append_eq_nil_iff,
      List.map_eq_nil_iff] at h
    obtain ⟨⟨-, hm⟩, hrest⟩ := h
    intro n hn
    rcases List.mem_cons.mp hn with rfl | hn
    · exact hm
    · exact ih hrest n hn

/-- Parameters without violations have different names, none of which was
seen before. -/
theorem names_of_paramViolations_eq_nil {seen : List String} {index : Nat}
    {ps : List Param} (h : paramViolations seen index ps = []) :
    (ps.map Param.name).Nodup ∧ ∀ q ∈ ps, q.name ∉ seen := by
  induction ps generalizing seen index with
  | nil => simp
  | cons p ps ih =>
    simp only [paramViolations, List.append_eq_nil_iff] at h
    obtain ⟨⟨⟨-, hrepeated⟩, -⟩, hrest⟩ := h
    exact nodup_and_unseen_cons (by simpa using hrepeated) (ih hrest)

/-- A method of a planned contract breaks no rule. -/
theorem violations_eq_nil_of_mem_methods {table : BuiltinTable}
    {c : Contract} {p : ContractPlan} (h : c.plan table = .ok p)
    {m : Method} (hm : m ∈ c.methods) : m.violations = [] := by
  have hviolations := violations_eq_nil_of_plan h
  simp only [violations, List.append_eq_nil_iff] at hviolations
  exact violations_eq_nil_of_methodViolations_eq_nil hviolations.2 m hm

/-- The parameters of a planned contract have names that an item may
have. -/
theorem isItemName_of_mem_params {table : BuiltinTable} {c : Contract}
    {p : ContractPlan} (h : c.plan table = .ok p) {m : Method}
    (hm : m ∈ c.methods) {q : Param} (hq : q ∈ m.params) :
    Text.isItemName q.name = true := by
  have hmethod := violations_eq_nil_of_mem_methods h hm
  simp only [Method.violations, List.append_eq_nil_iff] at hmethod
  exact isItemName_of_paramViolations_eq_nil hmethod.1.1.1.2 q hq

/-- No two parameters of a method of a planned contract have one name. -/
theorem nodup_param_names {table : BuiltinTable} {c : Contract}
    {p : ContractPlan} (h : c.plan table = .ok p) {m : Method}
    (hm : m ∈ c.methods) : (m.params.map Param.name).Nodup := by
  have hmethod := violations_eq_nil_of_mem_methods h hm
  simp only [Method.violations, List.append_eq_nil_iff] at hmethod
  exact (names_of_paramViolations_eq_nil hmethod.1.1.1.2).1

/-! ## Names of methods -/

/-- The methods of a planned contract have names that an item may
have. -/
theorem isItemName_of_mem_methods {table : BuiltinTable} {c : Contract}
    {p : ContractPlan} (h : c.plan table = .ok p) {m : Method}
    (hm : m ∈ c.methods) : Text.isItemName m.name = true := by
  have hmethod := violations_eq_nil_of_mem_methods h hm
  simp only [Method.violations, List.append_eq_nil_iff] at hmethod
  simpa [nameViolations] using hmethod.1.1.1.1

/-- Methods without violations have different names, none of which was
seen before. -/
theorem names_of_methodViolations_eq_nil {contract : String}
    {seen : List String} {ms : List Method}
    (h : methodViolations contract seen ms = []) :
    (ms.map Method.name).Nodup ∧ ∀ m ∈ ms, m.name ∉ seen := by
  induction ms generalizing seen with
  | nil => simp
  | cons m ms ih =>
    simp only [methodViolations, List.append_eq_nil_iff,
      List.map_eq_nil_iff] at h
    obtain ⟨⟨hrepeated, -⟩, hrest⟩ := h
    exact nodup_and_unseen_cons (by simpa using hrepeated) (ih hrest)

/-- No two methods of a planned contract have one name. -/
theorem nodup_method_names {table : BuiltinTable} {c : Contract}
    {p : ContractPlan} (h : c.plan table = .ok p) :
    (c.methods.map Method.name).Nodup := by
  have hviolations := violations_eq_nil_of_plan h
  simp only [violations, List.append_eq_nil_iff] at hviolations
  exact (names_of_methodViolations_eq_nil hviolations.2).1

end Contract

end PolicyWeave
