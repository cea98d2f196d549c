import PolicyWeave.Generation
import PolicyWeave.Proofs.Data.Listing
import PolicyWeave.Proofs.Plan
import PolicyWeave.Proofs.Source.Emission
import PolicyWeave.Sample.Contracts

/-!
# What a report holds

Generation turns every contract of a model into a file or into the list of
its errors.  This module says which of the two it is and what the errors
are, without a word on how they are collected.

There are four groups.

* The places of templates.  `Method.TemplateAt` relates the places of a
  method to its templates, and `Contract.TemplateErrorAt` the places of a
  contract to the errors there.
* `Contract.Accepted` and `Contract.Rejection` are the two ends that a
  contract can come to.
* `Reports` is about whole models: one contract after the other ends in a
  file or in a failure.
* `PolicyModel.generate_iff_reports`: the report of a model is the one
  that `Reports` describes, and it falls apart where the model does.
-/

namespace PolicyWeave

/-! ## The places of templates -/

/-- A place for a template in a method: its cache policy, or an index in
its evict policy. -/
inductive TemplatePlace where
  | cache
  | evict (index : Nat)

/-- The cache policy comes before the evict policy, whose templates come
in the order in which they are listed. -/
inductive TemplatePlace.Before : TemplatePlace → TemplatePlace → Prop where
  | cache (j : Nat) : Before .cache (.evict j)
  | evict {i j : Nat} (h : i < j) : Before (.evict i) (.evict j)

instance : Std.Asymm TemplatePlace.Before where
  asymm := by
    rintro _ _ (_ | h) (_ | h')
    exact Nat.lt_asymm h h'

/-- The template that a method has at a place. -/
inductive Method.TemplateAt (m : Method) : TemplatePlace → String → Prop
    where
  | cache {p : CachePolicy} (hp : m.cache = some p) :
      TemplateAt m .cache p.effectiveTemplate
  | evict {p : EvictPolicy} {i : Nat} {t : String} (hp : m.evict = some p)
      (ht : p.keys[i]? = some t) : TemplateAt m (.evict i) t

/-- The error at a place of a method: the template there does not
compile.  The error names the contract, the method and the template. -/
inductive Method.ErrorAt (table : BuiltinTable) (c : Contract)
    (m : Method) : TemplatePlace → MethodError → Prop where
  | intro {place : TemplatePlace} {t : String} {e : TemplateError}
      (ht : m.TemplateAt place t)
      (he : KeyTemplate.compile table c m t = .error e) :
      ErrorAt table c m place ⟨c.name, m.name, some t, .template e⟩

namespace Contract

/-- The error at a place of a contract, which is a method by its index and
a place in it. -/
def TemplateErrorAt (table : BuiltinTable) (c : Contract)
    (place : Nat × TemplatePlace) (e : MethodError) : Prop :=
  ∃ m, c.methods[place.1]? = some m ∧ m.ErrorAt table c place.2 e

/-! ## The two ends of a contract -/

/-- Whether a contract breaks no rule and all its templates compile. -/
structure Accepted (table : BuiltinTable) (c : Contract) : Prop where
  valid : c.violations = []
  compiles : ∀ m ∈ c.methods, ∀ place t, m.TemplateAt place t →
    ∃ k, KeyTemplate.compile table c m t = .ok k

/-- Whether `errors` is everything that is wrong with a contract: the
broken rules, then the errors of its templates, method by method. -/
inductive Rejection (table : BuiltinTable) (c : Contract) :
    List MethodError → Prop where
  | intro {errors : List MethodError}
      (h : Listing (Prod.Lex (· < ·) TemplatePlace.Before)
        (c.TemplateErrorAt table) errors) :
      Rejection table c (c.violations ++ errors)

end Contract

/-! ## Reports -/

/-- What is reported of contracts in a row.  Each of them ends either in a
file, written from its plan, or in a failure. -/
inductive Reports (config : Config) (table : BuiltinTable) :
    List Contract → Report → Prop where
  | nil : Reports config table [] ⟨[], []⟩
  | output {c : Contract} {cs : List Contract} {r : Report}
      {p : ContractPlan} (hc : c.Accepted table)
      (hp : c.plan table = .ok p) (h : Reports config table cs r) :
      Reports config table (c :: cs)
        ⟨⟨c.package, c.name, (SourceFile.ofPlan config p).text config⟩
          :: r.outputs, r.failures⟩
  | failure {c : Contract} {cs : List Contract} {r : Report}
      {errors : List MethodError} (hc : ¬ c.Accepted table)
      (he : c.Rejection table errors) (h : Reports config table cs r) :
      Reports config table (c :: cs)
        ⟨r.outputs, ⟨c.name, errors⟩ :: r.failures⟩

/-- One report behind another. -/
def Report.append (r s : Report) : Report :=
  ⟨r.outputs ++ s.outputs, r.failures ++ s.failures⟩

/-! ## Errors of templates -/

namespace Method

variable {table : BuiltinTable} {c : Contract} {m : Method}

/-- A place holds one template. -/
theorem TemplateAt.unique {place : TemplatePlace} {t t' : String}
    (h : m.TemplateAt place t) (h' : m.TemplateAt place t') : t = t' := by
  cases h with
  | cache hp =>
    obtain ⟨hp'⟩ := h'
    rw [Option.some.inj (hp.symm.trans hp')]
  | evict hp ht =>
    obtain _ | ⟨hp', ht'⟩ := h'
    obtain rfl := Option.some.inj (hp.symm.trans hp')
    exact Option.some.inj (ht.symm.trans ht')

/-- A place has one error. -/
theorem ErrorAt.unique {place : TemplatePlace} {e e' : MethodError}
    (h : m.ErrorAt table c place e) (h' : m.ErrorAt table c place e') :
    e = e' := by
  obtain ⟨ht, he⟩ := h
  obtain ⟨ht', he'⟩ := h'
  obtain rfl := ht.unique ht'
  rw [Except.error.inj (he.symm.trans he')]

/-- The error of a template, if it has one. -/
def templateError? (table : BuiltinTable) (c : Contract) (m : Method)
    (t : String) : Option MethodError :=
  match KeyTemplate.compile table c m t with
  | .ok _ => none
  | .error e => some (.ofTemplate c.name m.name t e)

theorem templateError?_eq_some_iff {t : String} {e : MethodError} :
    templateError? table c m t = some e ↔
      ∃ fault, KeyTemplate.compile table c m t = .error fault
        ∧ ⟨c.name, m.name, some t, .template fault⟩ = e := by
  unfold templateError?
  cases KeyTemplate.compile table c m t <;> simp [MethodError.ofTemplate]

theorem templateErrors_eq (table : BuiltinTable) (c : Contract)
    (m : Method) :
    m.templateErrors table c
      = (m.cache.bind fun p =>
          templateError? table c m p.effectiveTemplate).toList
        ++ ((m.evict.map EvictPolicy.keys).getD []).filterMap
            (templateError? table c m) := by
  have hall : m.templateErrors table c
      = m.templates.filterMap (templateError? table c m) := rfl
  rw [hall, templates, List.filterMap_append]
  cases m.cache with
  | none => simp
  | some p =>
    cases he : templateError? table c m p.effectiveTemplate <;> simp [he]

/-- The errors at the places of a method: that of the cache policy, and
those of the evict policy by their index. -/
theorem errorAt_iff {place : TemplatePlace} {e : MethodError} :
    m.ErrorAt table c place e ↔
      (place = .cache ∧ (m.cache.bind fun p =>
          templateError? table c m p.effectiveTemplate) = some e)
        ∨ ∃ i, .evict i = place ∧
            ∃ t, ((m.evict.map EvictPolicy.keys).getD [])[i]? = some t
              ∧ templateError? table c m t = some e := by
  simp only [Option.bind_eq_some_iff, templateError?_eq_some_iff]
  constructor
  · rintro ⟨ht, he⟩
    cases ht with
    | cache hp => exact .inl ⟨rfl, _, hp, _, he, rfl⟩
    | evict hp ht => exact .inr ⟨_, rfl, _, by simp [hp, ht], _, he, rfl⟩
  · rintro (⟨rfl, p, hp, _, he, rfl⟩ | ⟨i, rfl, t, ht, _, he, rfl⟩)
    · exact .intro (.cache hp) he
    · cases hp : m.evict with
      | none => simp [hp] at ht
      | some p => exact .intro (.evict hp (by simpa [hp] using ht)) he

/-- The errors of the templates of a method are listed in order. -/
theorem listing_templateErrors (table : BuiltinTable) (c : Contract)
    (m : Method) :
    Listing TemplatePlace.Before (m.ErrorAt table c)
      (m.templateErrors table c) := by
  have hcache := Listing.toList TemplatePlace.Before .cache
    (m.cache.bind fun p => templateError? table c m p.effectiveTemplate)
  have hevict := (listing_filterMap (templateError? table c m)
    ((m.evict.map EvictPolicy.keys).getD [])).map
      TemplatePlace.Before .evict fun _ _ => .evict
  rw [templateErrors_eq]
  refine (hcache.append hevict ?_).congr fun _ _ => errorAt_iff.symm
  rintro _ _ _ _ ⟨rfl, -⟩ ⟨j, rfl, -⟩
  exact .cache j

end Method

/-! ## Contracts -/

namespace Contract

variable {table : BuiltinTable} {c : Contract}

/-- The errors of the templates of a contract are listed in order. -/
theorem listing_templateErrors (table : BuiltinTable) (c : Contract) :
    Listing (Prod.Lex (· < ·) TemplatePlace.Before)
      (c.TemplateErrorAt table)
      (c.methods.flatMap (Method.templateErrors table c)) :=
  listing_flatMap (Method.listing_templateErrors table c) c.methods

/-- What stands in the way of a plan is everything that is wrong. -/
theorem rejection_planErrors (table : BuiltinTable) (c : Contract) :
    c.Rejection table (c.planErrors table) :=
  .intro (c.listing_templateErrors table)

/-- There is one list of everything that is wrong. -/
theorem Rejection.eq_planErrors {errors : List MethodError}
    (h : c.Rejection table errors) : errors = c.planErrors table := by
  obtain ⟨h⟩ := h
  rw [planErrors, List.append_cancel_left_eq]
  refine h.unique ?_ (c.listing_templateErrors table)
  rintro _ e e' ⟨m, hm, he⟩ ⟨m', hm', he'⟩
  obtain rfl : m = m' := Option.some.inj (hm.symm.trans hm')
  exact he.unique he'

/-- No place of a contract has an error exactly if all its templates
compile. -/
theorem forall_not_templateErrorAt_iff :
    (∀ place e, ¬ c.TemplateErrorAt table place e) ↔
      ∀ m ∈ c.methods, ∀ place t, m.TemplateAt place t →
        ∃ k, KeyTemplate.compile table c m t = .ok k := by
  constructor
  · intro hnone m hm place t ht
    cases hk : KeyTemplate.compile table c m t with
    | ok k => exact ⟨k, rfl⟩
    | error e =>
      obtain ⟨i, hi⟩ := List.getElem?_of_mem hm
      exact absurd ⟨m, hi, .intro ht hk⟩ (hnone (i, place) _)
  · rintro hcompiles place e ⟨m, hm, ⟨ht, he⟩⟩
    obtain ⟨k, hk⟩ := hcompiles m (List.mem_of_getElem? hm) _ _ ht
    rw [hk] at he
    cases he

/-- Nothing stands in the way of a plan exactly if the contract is
accepted. -/
theorem planErrors_eq_nil_iff :
    c.planErrors table = [] ↔ c.Accepted table := by
  rw [planErrors, List.append_eq_nil_iff,
    (c.listing_templateErrors table).eq_nil_iff,
    forall_not_templateErrorAt_iff]
  exact ⟨fun h => ⟨h.1, h.2⟩, fun h => ⟨h.1, h.2⟩⟩

/-- A contract has a plan exactly if it is accepted. -/
theorem exists_plan_iff :
    (∃ p, c.plan table = .ok p) ↔ c.Accepted table := by
  rw [← planErrors_eq_nil_iff]
  constructor
  · rintro ⟨p, hp⟩
    exact (plan_eq_ok_iff.mp hp).1
  · intro h
    exact ⟨_, plan_eq_ok_iff.mpr ⟨h, rfl⟩⟩

/-- Planning fails exactly for contracts that are not accepted, and with
everything that is wrong with them. -/
theorem plan_eq_error_iff {errors : List MethodError} :
    c.plan table = .error errors ↔
      ¬ c.Accepted table ∧ c.Rejection table errors := by
  have hreject := c.rejection_planErrors table
  rw [← planErrors_eq_nil_iff]
  unfold plan
  cases herrors : c.planErrors table with
  | nil => simp
  | cons e es =>
    rw [herrors] at hreject
    constructor
    · rintro ⟨rfl⟩
      exact ⟨by simp, hreject⟩
    · rintro ⟨-, h⟩
      rw [h.eq_planErrors, herrors]

end Contract

/-! ## Models -/

section

variable {config : Config} {table : BuiltinTable}

/-- A report begins with the result of the first contract. -/
theorem PolicyModel.generate_cons (c : Contract) (cs : List Contract) :
    PolicyModel.generate config table ⟨c :: cs⟩
      = (PolicyModel.generate config table ⟨cs⟩).cons
          (c.generate config table) := rfl

/-- The report of a model is one that the rules allow. -/
theorem PolicyModel.reports_generate (cs : List Contract) :
    Reports config table cs (PolicyModel.generate config table ⟨cs⟩) := by
  induction cs with
  | nil => exact .nil
  | cons c cs ih =>
    rw [generate_cons, Contract.generate]
    cases hp : c.plan table with
    | ok p =>
      have hreport := Reports.output (Contract.exists_plan_iff.mp ⟨p, hp⟩) hp ih
      rw [← ContractPlan.render_eq] at hreport
      exact hreport
    | error errors =>
      obtain ⟨hc, he⟩ := Contract.plan_eq_error_iff.mp hp
      exact .failure hc he ih

/-- The rules allow no other report. -/
theorem Reports.eq_generate {cs : List Contract} {r : Report}
    (h : Reports config table cs r) :
    r = PolicyModel.generate config table ⟨cs⟩ := by
  induction h with
  | nil => rfl
  | output _ hp _ ih =>
    rw [PolicyModel.generate_cons, Contract.generate, hp, ← ih,
      ← ContractPlan.render_eq]
    rfl
  | failure hc he _ ih =>
    rw [PolicyModel.generate_cons, Contract.generate,
      Contract.plan_eq_error_iff.mpr ⟨hc, he⟩, ← ih]
    rfl

/-- Reports of contracts in a row fit together. -/
theorem Reports.append {xs ys : List Contract} {r s : Report}
    (h : Reports config table xs r) (h' : Reports config table ys s) :
    Reports config table (xs ++ ys) (r.append s) := by
  induction h with
  | nil => exact h'
  | output hc hp _ ih => exact .output hc hp ih
  | failure hc he _ ih => exact .failure hc he ih

end

/-- The report of a model is the one that the rules describe.  Each
contract in turn ends either in its file, if it breaks no rule and all its
templates compile, or else in a failure with all its errors in order; and
the report of a model in two pieces is that of the first followed by that
of the second. -/
theorem PolicyModel.generate_iff_reports (config : Config)
    (table : BuiltinTable) :
    (∀ cs r, Reports config table cs r ↔
        r = PolicyModel.generate config table ⟨cs⟩)
      ∧ ∀ xs ys, PolicyModel.generate config table ⟨xs ++ ys⟩
          = (PolicyModel.generate config table ⟨xs⟩).append
              (PolicyModel.generate config table ⟨ys⟩) := by
  refine ⟨?_, ?_⟩
  · intro cs r
    constructor
    · exact Reports.eq_generate
    · rintro rfl
      exact PolicyModel.reports_generate cs
  · intro xs ys
    have hxs : Reports config table xs _ := PolicyModel.reports_generate xs
    have hys : Reports config table ys _ := PolicyModel.reports_generate ys
    exact (hxs.append hys).eq_generate.symm

/-- A broken contract between two good ones fails alone. -/
example : (Sample.mixedModel.generate .standard .standard).failures.map
    FailedContract.contract = ["BrokenService"] := by
  decide +kernel

end PolicyWeave
