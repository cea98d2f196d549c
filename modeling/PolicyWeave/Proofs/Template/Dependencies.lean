import Mathlib.Data.List.Nodup
import Mathlib.Data.String.Basic
import PolicyWeave.Proofs.Plan
import PolicyWeave.Proofs.Template.FieldPaths
import PolicyWeave.Sample.Contracts
import PolicyWeave.Template.Evaluate

/-!
# What keys depend on

A key reads some of the arguments of its method and no others.

* `KeyTemplate.mem_dependencies_iff`: the dependencies of a key are the
  roots of its field paths, each listed once.
* `KeyTemplate.evaluate_congr`: arguments that agree on them give one key.
* `KeyTemplate.Scoped` is what the dependencies of a key are within a
  method, and `ContractPlan.keys_scoped` says it of every key of a plan.

A root names the first parameter of its name.  So it is known to be a value
only because no two parameters of a planned method have one name.
-/

namespace PolicyWeave

/-! ## Sorted names -/

theorem mem_insertName {name n : String} {names : List String} :
    n ∈ insertName name names ↔ n = name ∨ n ∈ names := by
  fun_induction insertName name names with
  | case1 => simp
  | case2 => simp
  | case3 n' rest _ heq =>
    obtain rfl : name = n' := by simpa using heq
    simp
  | case4 n' rest _ _ ih =>
    simp only [List.mem_cons, ih]
    exact or_left_comm

/-- One more name keeps the order. -/
theorem pairwise_insertName {name : String} {names : List String}
    (h : names.Pairwise (· < ·)) :
    (insertName name names).Pairwise (· < ·) := by
  fun_induction insertName name names with
  | case1 => exact List.pairwise_singleton ..
  | case2 n rest hlt =>
    refine List.pairwise_cons.mpr ⟨?_, h⟩
    intro n' hn'
    rcases List.mem_cons.mp hn' with rfl | hn'
    · exact hlt
    · exact hlt.trans (List.rel_of_pairwise_cons h hn')
  | case3 => exact h
  | case4 n rest hlt hne ih =>
    obtain ⟨hfirst, hrest⟩ := List.pairwise_cons.mp h
    refine List.pairwise_cons.mpr ⟨?_, ih hrest⟩
    intro n' hn'
    rcases mem_insertName.mp hn' with rfl | hn'
    · exact lt_of_le_of_ne (not_lt.mp hlt) fun heq => hne (by simp [heq])
    · exact hfirst n' hn'

/-! ## Dependencies -/

theorem Segment.params_eq (s : Segment) :
    s.params = s.paths.map FieldPath.param := by
  cases s <;> rfl

namespace KeyTemplate

variable {k : KeyTemplate}

theorem mem_foldr_insertName {name : String} {names : List String} :
    name ∈ names.foldr insertName [] ↔ name ∈ names := by
  induction names with
  | nil => rfl
  | cons n names ih =>
    rw [List.foldr_cons, mem_insertName, ih, List.mem_cons]

/-- The dependencies of a key are the roots of its field paths. -/
theorem mem_dependencies_iff {name : String} :
    name ∈ k.dependencies ↔ ∃ p ∈ k.paths, p.param = name := by
  simp only [dependencies, mem_foldr_insertName, paths, List.mem_flatMap,
    Segment.params_eq, List.mem_map]
  grind

/-- The dependencies of a key are sorted, and each is there once. -/
theorem pairwise_dependencies (k : KeyTemplate) :
    k.dependencies.Pairwise (· < ·) := by
  unfold dependencies
  induction k.segments.flatMap Segment.params with
  | nil => exact .nil
  | cons name names ih => exact pairwise_insertName ih

end KeyTemplate

/-! ## Evaluation -/

/-- A field path reads the argument at its root only. -/
theorem Arguments.resolve_congr {A B : Arguments} {p : FieldPath}
    (h : A.lookup p.param = B.lookup p.param) :
    A.resolve p = B.resolve p := by
  unfold Arguments.resolve
  rw [h]

theorem Arguments.operand_congr {A B : Arguments} {ps : List FieldPath}
    (h : ∀ p ∈ ps, A.resolve p = B.resolve p) :
    A.operand ps = B.operand ps := by
  unfold Arguments.operand
  split
  · exact h _ (by simp)
  · rw [List.map_congr_left h]

/-- A segment reads what its field paths read. -/
theorem Segment.evaluate_congr {A B : Arguments} {s : Segment}
    (h : ∀ p ∈ s.paths, A.resolve p = B.resolve p) :
    s.evaluate A = s.evaluate B := by
  cases s with
  | literal t => rfl
  | field p => exact congrArg Json.segment (h p (by simp [paths]))
  | builtin name f args => exact congrArg f.apply (Arguments.operand_congr h)

theorem Segment.evaluateAll_congr {A B : Arguments} {ss : List Segment}
    (h : ∀ p ∈ ss.flatMap Segment.paths, A.resolve p = B.resolve p) :
    Segment.evaluateAll A ss = Segment.evaluateAll B ss := by
  induction ss with
  | nil => rfl
  | cons s ss ih =>
    rw [List.flatMap_cons, List.forall_mem_append] at h
    rw [evaluateAll, evaluateAll, evaluate_congr h.1, ih h.2]

/-- Arguments that agree on the dependencies of a key give one key. -/
theorem KeyTemplate.evaluate_congr {A B : Arguments} {k : KeyTemplate}
    (h : ∀ name ∈ k.dependencies, A.lookup name = B.lookup name) :
    k.evaluate A = k.evaluate B := by
  refine Segment.evaluateAll_congr ?_
  intro p hp
  exact Arguments.resolve_congr
    (h p.param (mem_dependencies_iff.mpr ⟨p, hp, rfl⟩))

/-! ## Scope -/

/-- What the dependencies of a key are within a method: the roots of its
field paths, in order, and all of them value parameters.  A field path
starts with a declared field if its parameter declares any. -/
structure KeyTemplate.Scoped (m : Method) (k : KeyTemplate) : Prop where
  sorted : k.dependencies.Pairwise (· < ·)
  roots : ∀ name, name ∈ k.dependencies ↔ ∃ p ∈ k.paths, p.param = name
  values : ∀ name ∈ k.dependencies, ∃ q ∈ m.valueParams, q.name = name
  no_context : ∀ q ∈ m.params, q.kind = .context →
    q.name ∉ k.dependencies
  declared : ∀ p ∈ k.paths, ∀ q ∈ m.params, q.name = p.param →
    ∀ known f fs, q.fields = some known → p.fields = f :: fs → f ∈ known

namespace FieldPath

variable {m : Method} {ps : List Path} {p : FieldPath}

/-- A field path that is reached has a value parameter at its root, which
declares the first field if it declares any. -/
theorem Reached.exists_param (h : p.Reached m ps) :
    ∃ q ∈ m.valueParams, q.name = p.param
      ∧ ∀ known f fs, q.fields = some known → p.fields = f :: fs →
          f ∈ known := by
  cases h with
  | operand _ h =>
    obtain ⟨r, hr, hkind, hdeclared, rfl⟩ := Path.resolve_eq_ok_iff.mp h
    refine ⟨r, ?_, Method.name_of_param?_eq_some hr, hdeclared⟩
    exact List.mem_filter.mpr ⟨List.mem_of_find?_eq_some hr, by simp [hkind]⟩
  | param hr => exact ⟨_, hr, rfl, by simp⟩

end FieldPath

/-- A key is scoped if its field paths are reached and the parameters have
different names. -/
theorem KeyTemplate.scoped_of_reached {m : Method} {ps : List Path}
    {k : KeyTemplate} (hnames : (m.params.map Param.name).Nodup)
    (h : ∀ p ∈ k.paths, p.Reached m ps) : k.Scoped m := by
  -- one name is one parameter
  have hunique {q r : Param} (hq : q ∈ m.params) (hr : r ∈ m.valueParams)
      (hname : q.name = r.name) : q = r ∧ q.kind = .value := by
    obtain ⟨hr, hkind⟩ := List.mem_filter.mp hr
    obtain rfl := List.inj_on_of_nodup_map hnames hq hr hname
    exact ⟨rfl, by simpa using hkind⟩
  refine ⟨k.pairwise_dependencies, fun _ => mem_dependencies_iff, ?_, ?_, ?_⟩
  · intro name hname
    obtain ⟨p, hp, rfl⟩ := mem_dependencies_iff.mp hname
    obtain ⟨q, hq, hroot, -⟩ := (h p hp).exists_param
    exact ⟨q, hq, hroot⟩
  · intro q hq hkind hmem
    obtain ⟨p, hp, hname⟩ := mem_dependencies_iff.mp hmem
    obtain ⟨r, hr, hroot, -⟩ := (h p hp).exists_param
    obtain ⟨-, hvalue⟩ := hunique hq hr (hname.symm.trans hroot.symm)
    rw [hvalue] at hkind
    cases hkind
  · intro p hp q hq hname
    obtain ⟨r, hr, hroot, hdeclared⟩ := (h p hp).exists_param
    obtain ⟨rfl, -⟩ := hunique hq hr (hname.trans hroot.symm)
    exact hdeclared

namespace ContractPlan

/-- Every key of a planned method is scoped in it. -/
theorem scoped_of_mem_keyTemplates {table : BuiltinTable} {c : Contract}
    {p : ContractPlan} (hplan : c.plan table = .ok p) {m : MethodPlan}
    (hm : m ∈ p.methods) {k : KeyTemplate} (hk : k ∈ m.keyTemplates) :
    k.Scoped m.method := by
  obtain ⟨m, hmem, rfl⟩ := Contract.exists_of_mem_plan hplan hm
  obtain ⟨t, -, hcompile⟩ := Method.compile_of_mem_keyTemplates hk
  obtain ⟨_, -, hreached⟩ := KeyTemplate.reached_of_compile_eq_ok hcompile
  exact KeyTemplate.scoped_of_reached (Contract.nodup_param_names hplan hmem)
    hreached

/-- Every key of a plan is scoped in its method, and depends on nothing but
its dependencies.  In particular it is the same for arguments that differ
in the context only. -/
theorem keys_scoped {table : BuiltinTable} {c : Contract}
    {p : ContractPlan} (hplan : c.plan table = .ok p) {m : MethodPlan}
    (hm : m ∈ p.methods) {k : KeyTemplate} (hk : k ∈ m.keyTemplates) :
    k.Scoped m.method
      ∧ (∀ A B : Arguments,
          (∀ name ∈ k.dependencies, A.lookup name = B.lookup name) →
          k.evaluate A = k.evaluate B)
      ∧ ∀ A B : Arguments,
          (∀ name, A.lookup name ≠ B.lookup name →
            ∃ q ∈ m.method.params, q.name = name ∧ q.kind = .context) →
          k.evaluate A = k.evaluate B := by
  have hscoped := scoped_of_mem_keyTemplates hplan hm hk
  refine ⟨hscoped, fun A B => KeyTemplate.evaluate_congr, ?_⟩
  intro A B hdiffer
  refine KeyTemplate.evaluate_congr ?_
  intro name hname
  by_contra hne
  obtain ⟨q, hq, rfl, hkind⟩ := hdiffer name hne
  exact hscoped.no_context q hq hkind hname

end ContractPlan

/-- A method with a context, whose key is made of all values and of a
declared field. -/
def Sample.find : Method where
  name := "find"
  params :=
    [param "ctx" "&Context" .context none,
      param "filter" "UserFilter" .value (some ["name"]),
      param "page" "u32" .value none]
  returns := returns "User"
  cache := some
    ⟨Duration.ofMilliseconds 1000, "",
      "\x7bjson()\x7d:\x7bfilter.name\x7d", percent 0, percent 0⟩
  evict := none
  trace := none

/-- The contract of that method. -/
def Sample.search : Contract := ⟨"app::users", "Search", [find]⟩

/-- The key of that method. -/
def Sample.searchKey : KeyTemplate where
  source := "\x7bjson()\x7d:\x7bfilter.name\x7d"
  segments :=
    [.builtin "json" .json [⟨"filter", []⟩, ⟨"page", []⟩], .literal ":",
      .field ⟨"filter", ["name"]⟩]

/-- That key depends on both values, and not on the context. -/
theorem ContractPlan.keys_scoped_search :
    ∃ p, Sample.search.plan .standard = .ok p ∧
      ∃ m ∈ p.methods, Sample.searchKey ∈ m.keyTemplates
        ∧ Sample.searchKey.dependencies = ["filter", "page"]
        ∧ "ctx" ∉ Sample.searchKey.dependencies
        ∧ Sample.searchKey.evaluate
            [("ctx", .string "a"), ("page", .number (.whole 2))]
          = Sample.searchKey.evaluate
            [("ctx", .string "b"), ("page", .number (.whole 2))] := by
  let m := Sample.find.plan .standard Sample.search
  have hplan : Sample.search.plan .standard = .ok ⟨Sample.search, [m]⟩ :=
    Contract.plan_of_planErrors_eq_nil (by decide +kernel)
  have hm : m ∈ [m] := List.mem_singleton_self m
  have hk : Sample.searchKey ∈ m.keyTemplates := by decide +kernel
  obtain ⟨hscoped, -, hcontext⟩ := keys_scoped hplan hm hk
  refine ⟨_, hplan, m, hm, hk, by decide +kernel, ?_, ?_⟩
  · exact hscoped.no_context (Sample.param "ctx" "&Context" .context none)
      List.mem_cons_self rfl
  · refine hcontext _ _ ?_
    intro name hne
    refine ⟨Sample.param "ctx" "&Context" .context none,
      List.mem_cons_self, ?_, rfl⟩
    by_contra hname
    have hname : (name == "ctx") = false :=
      beq_eq_false_iff_ne.mpr fun h => hname h.symm
    simp [List.lookup_cons, hname] at hne

end PolicyWeave
