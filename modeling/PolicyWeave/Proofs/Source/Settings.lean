import PolicyWeave.Proofs.Data.Lists
import PolicyWeave.Proofs.Generation
import PolicyWeave.Proofs.Text.SnakeCase

/-!
# Settings constants

The caching decorator of a contract has one settings constant for each
cached method, and the body of that method refers to it by name.

* `Decorator.Settled` says that every constant a body refers to is defined
  once, with the label and the policy of its method.
* `ContractPlan.settled_iff` says when that is so: the cached methods must
  differ in snake case.

Validation compares the names of methods as they are written.  Names that
differ in case only may have one snake case, and then one constant name.
-/

namespace PolicyWeave

/-! ## Constants and the bodies that refer to them -/

/-- The constant that a closing expression refers to. -/
def Tail.settings? : Tail → Option String
  | .populate settings _ _ _ _ => some settings
  | _ => none

/-- Whether a constant carries the label and the cache policy of a
method. -/
structure SettingsConstant.Describes (s : SettingsConstant)
    (contract : String) (m : Method) : Prop where
  label : s.label = contract ++ "." ++ m.name
  policy : ∃ q, m.cache = some q ∧ s.plan.ttl = q.ttl
    ∧ s.plan.jitterPercent = q.jitterPercent
    ∧ s.plan.refreshThresholdPercent = q.refreshThresholdPercent

/-- Whether each constant that a body refers to is defined once, with the
label and the policy of the body's method. -/
def Decorator.Settled (d : Decorator) : Prop :=
  ∀ f ∈ d.functions, ∀ name, f.2.tail.settings? = some name →
    ∃ s, d.settings.filter (fun t => t.name == name) = [s]
      ∧ s.Describes d.contract f.1

/-- The names of the cached methods. -/
def Contract.cachedNames (c : Contract) : List String :=
  c.methods.filterMap fun m => m.cache.map fun _ => m.name

theorem settings?_cacheBody (contract : String) (m : MethodPlan) :
    (cacheBody contract m).tail.settings? =
      (settingsConstant? contract m).map SettingsConstant.name := by
  cases hcache : m.cache with
  | some cache => simp [cacheBody, settingsConstant?, hcache, Tail.settings?]
  | none =>
    cases hevict : m.evict <;>
      simp [cacheBody, settingsConstant?, hcache, hevict, Tail.settings?,
        forwardBody]

/-- A constant of a planned method describes it. -/
theorem describes_of_settingsConstant? {table : BuiltinTable}
    {c : Contract} {m : Method} {contract : String} {s : SettingsConstant}
    (h : settingsConstant? contract (m.plan table c) = some s) :
    s.Describes contract m := by
  obtain ⟨cache, hcache, rfl⟩ := Option.map_eq_some_iff.mp h
  obtain ⟨q, hq, k, -, rfl⟩ := Method.cache_plan_eq_some_iff.mp hcache
  exact ⟨rfl, q, hq, rfl, rfl, rfl⟩

section Planned

variable {table : BuiltinTable} {c : Contract} {p : ContractPlan}

/-- A method of a planned contract has a constant exactly if it is
cached. -/
theorem map_name_settingsConstant? (hplan : c.plan table = .ok p)
    {m : Method} (hm : m ∈ c.methods) :
    (settingsConstant? c.name (m.plan table c)).map SettingsConstant.name
      = m.cache.map fun _ => Names.settings c.name m.name := by
  cases hcache : m.cache with
  | none =>
    have hnone : (m.plan table c).cache = none := by
      simp [Method.plan, hcache]
    simp [settingsConstant?, hnone]
  | some q =>
    have haccepted := Contract.exists_plan_iff.mp ⟨p, hplan⟩
    obtain ⟨k, hk⟩ := haccepted.compiles m hm .cache _ (.cache hcache)
    have hcompiled : Method.compiled? table c m q.effectiveTemplate
        = some k := by
      simp [Method.compiled?, hk, Except.toOption]
    have hsome := Method.cache_plan_eq_some_iff.mpr
      ⟨q, hcache, k, hcompiled, rfl⟩
    rw [settingsConstant?, hsome]
    rfl

/-- The names of the constants are those of the cached methods. -/
theorem map_name_settings (hplan : c.plan table = .ok p) :
    (cacheDecorator p).settings.map SettingsConstant.name
      = c.cachedNames.map (Names.settings c.name) := by
  have hnames := fun m => map_name_settingsConstant? (m := m) hplan
  obtain ⟨-, rfl⟩ := Contract.plan_eq_ok_iff.mp hplan
  simp only [cacheDecorator, Contract.cachedNames, List.map_filterMap,
    List.filterMap_map, Option.map_map]
  exact List.filterMap_congr hnames

/-- The constant that a body refers to is that of its method. -/
theorem settings?_eq (hplan : c.plan table = .ok p) {f : Method × Body}
    (hf : f ∈ (cacheDecorator p).functions) :
    f.2.tail.settings? =
      f.1.cache.map fun _ => Names.settings c.name f.1.name := by
  have hnames := fun m => map_name_settingsConstant? (m := m) hplan
  obtain ⟨-, rfl⟩ := Contract.plan_eq_ok_iff.mp hplan
  obtain ⟨_, hm, rfl⟩ := List.mem_map.mp hf
  obtain ⟨m, hmem, rfl⟩ := List.mem_map.mp hm
  exact (settings?_cacheBody c.name _).trans (hnames m hmem)

/-- The constants are settled exactly if they have different names. -/
theorem settled_iff_nodup (hplan : c.plan table = .ok p) :
    (cacheDecorator p).Settled ↔
      ((cacheDecorator p).settings.map SettingsConstant.name).Nodup := by
  obtain ⟨-, rfl⟩ := Contract.plan_eq_ok_iff.mp hplan
  rw [nodup_map_iff_filter]
  constructor
  · intro hsettled s hs
    obtain ⟨m, hm, hconst⟩ := List.mem_filterMap.mp hs
    have hrefers := settings?_cacheBody c.name m
    rw [hconst] at hrefers
    obtain ⟨s', hfilter, -⟩ := hsettled _
      (List.mem_map.mpr ⟨m, hm, rfl⟩) s.name hrefers
    have hmem : s ∈ (cacheDecorator _).settings.filter
        (fun t => t.name == s.name) :=
      List.mem_filter.mpr ⟨hs, beq_self_eq_true _⟩
    rw [hfilter] at hmem
    rw [hfilter, List.mem_singleton.mp hmem]
  · intro honce f hf name hname
    obtain ⟨m, hm, rfl⟩ := List.mem_map.mp hf
    obtain ⟨s, hconst, rfl⟩ := Option.map_eq_some_iff.mp
      ((settings?_cacheBody c.name m).symm.trans hname)
    refine ⟨s, honce s (List.mem_filterMap.mpr ⟨m, hm, hconst⟩), ?_⟩
    obtain ⟨m, -, rfl⟩ := List.mem_map.mp hm
    exact describes_of_settingsConstant? hconst

end Planned

/-- No two cached methods of a planned contract have one name. -/
theorem Contract.nodup_cachedNames {table : BuiltinTable} {c : Contract}
    {p : ContractPlan} (hplan : c.plan table = .ok p) :
    c.cachedNames.Nodup := by
  have hnames := List.pairwise_map.mp (nodup_method_names hplan)
  refine List.pairwise_filterMap.mpr (hnames.imp ?_)
  intro m n hne a ha b hb
  obtain ⟨_, -, rfl⟩ := Option.map_eq_some_iff.mp ha
  obtain ⟨_, -, rfl⟩ := Option.map_eq_some_iff.mp hb
  exact hne

/-- Methods have one constant name exactly if their names have one snake
case. -/
theorem Names.settings_eq_iff {contract m n : String} :
    Names.settings contract m = Names.settings contract n ↔
      Text.snakeCase m = Text.snakeCase n := by
  rw [← Text.upperSnakeCase_eq_iff]
  simp [Names.settings]

/-- The bodies of a planned contract refer to the constants of the cached
methods.  Each constant is defined once, with the label and the policy of
its method, exactly if the constants of the cached methods have different
names; that is, if the cached methods differ in snake case.  They do if
their names have no capitals. -/
theorem ContractPlan.settled_iff {table : BuiltinTable} {c : Contract}
    {p : ContractPlan} (hplan : c.plan table = .ok p) :
    (∀ f ∈ (cacheDecorator p).functions,
        f.2.tail.settings? =
          f.1.cache.map fun _ => Names.settings c.name f.1.name)
      ∧ ((cacheDecorator p).Settled ↔
          (c.cachedNames.map (Names.settings c.name)).Nodup)
      ∧ ((cacheDecorator p).Settled ↔
          (c.cachedNames.map Text.snakeCase).Nodup)
      ∧ ((∀ name ∈ c.cachedNames, ∀ ch ∈ name.toList,
            ch.isUpper = false) →
          (cacheDecorator p).Settled) := by
  have hsettled := settled_iff_nodup hplan
  rw [map_name_settings hplan] at hsettled
  have hsnake : (c.cachedNames.map (Names.settings c.name)).Nodup ↔
      (c.cachedNames.map Text.snakeCase).Nodup := by
    simp only [List.Nodup, List.pairwise_map, ne_eq, Names.settings_eq_iff]
  refine ⟨fun f => settings?_eq hplan, hsettled, hsettled.trans hsnake, ?_⟩
  intro hlower
  rw [hsettled, hsnake, List.map_congr_left fun name hname =>
    Text.snakeCase_eq_self (hlower name hname), List.map_id']
  exact Contract.nodup_cachedNames hplan

/-- The constants of the user service are settled. -/
theorem ContractPlan.settled_userService :
    ∃ p, Sample.userService.plan .standard = .ok p
      ∧ (cacheDecorator p).Settled := by
  have hplan := Contract.plan_of_planErrors_eq_nil
    (by decide +kernel : Sample.userService.planErrors .standard = [])
  refine ⟨_, hplan, ?_⟩
  obtain ⟨-, -, hsnake, -⟩ := settled_iff hplan
  exact hsnake.mpr (by decide +kernel)

/-- A contract with two cached methods that have one snake case, each with
a policy of its own. -/
def Sample.accounts : Contract where
  package := "app::users"
  name := "Accounts"
  methods :=
    [{ getUser with name := "getUser" },
      { getUser with
        cache := some
          ⟨Duration.ofMilliseconds 60000, "user:", "\x7bid\x7d", percent 0,
            percent 0⟩ }]

/-- The contract has a plan, and its two constants have one name. -/
theorem ContractPlan.not_settled_accounts :
    ∃ p, Sample.accounts.plan .standard = .ok p
      ∧ ¬ (cacheDecorator p).Settled
      ∧ (cacheDecorator p).settings.map SettingsConstant.name
          = ["ACCOUNTS_GET_USER_CACHE", "ACCOUNTS_GET_USER_CACHE"] := by
  have hplan := Contract.plan_of_planErrors_eq_nil
    (by decide +kernel : Sample.accounts.planErrors .standard = [])
  have hnames := map_name_settings hplan
  have hconstants : Sample.accounts.cachedNames.map
      (Names.settings Sample.accounts.name)
        = ["ACCOUNTS_GET_USER_CACHE", "ACCOUNTS_GET_USER_CACHE"] := by
    decide +kernel
  refine ⟨_, hplan, ?_, hnames.trans hconstants⟩
  rw [settled_iff_nodup hplan, hnames, hconstants]
  decide

end PolicyWeave
