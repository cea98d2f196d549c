import Mathlib.Data.Prod.Lex
import PolicyWeave.Proofs.Data.Listing
import PolicyWeave.Proofs.Number.Value

/-!
# The rules of a contract

Validation goes through a contract with running lists of the names already
seen.  Here the rules are stated each on its own, about the data.

There are four groups.

* `Method.Sound` and `Contract.Sound` say that all rules are kept.
* The places.  A rule is broken at a place: the contract itself, or one of
  the items of a method.  `Before` is the order in which places are looked
  at.
* `Method.Breaks` and `Contract.Breaks` relate a place to the error there,
  one constructor for each rule.
* `Contract.validation_exact`: a contract is valid exactly if it is sound,
  and its violations are what is broken, place by place.
-/

namespace PolicyWeave

open Number (Double)

/-! ## Sound contracts -/

/-- Whether a contract, a method or a parameter may have a name. -/
structure ItemName (name : String) : Prop where
  identifier : Text.isIdentifier name = true
  notKeyword : Text.isKeyword name = false

/-- The names that items before an index have. -/
def namesBefore {α : Type} (name : α → String) (as : List α) (i : Nat) :
    List String :=
  (as.take i).map name

/-- Whether the first parameter that has a name is a value. -/
def Method.FirstIsValue (m : Method) (name : String) : Prop :=
  ∃ i q, m.params[i]? = some q ∧ q.name = name ∧ q.kind = .value
    ∧ name ∉ namesBefore Param.name m.params i

/-- Whether a method keeps the rules for methods. -/
structure Method.Sound (m : Method) : Prop where
  name : ItemName m.name
  params : ∀ q ∈ m.params, ItemName q.name
  distinct : (m.params.map Param.name).Nodup
  contextFirst : ∀ i q, m.params[i]? = some q → q.kind = .context → i = 0
  ttl : ∀ p ∈ m.cache, p.ttl.nanoseconds ≠ 0
  notMutable : ∀ p ∈ m.cache, ∀ q ∈ m.params, q.isMutRef = false
  jitter : ∀ p ∈ m.cache, InPercentRange p.jitterPercent
  refresh : ∀ p ∈ m.cache, InPercentRange p.refreshThresholdPercent
  keys : ∀ p ∈ m.evict, p.keys ≠ []
  attributes : ∀ p ∈ m.trace, ∀ a ∈ p.attributes, m.FirstIsValue a

/-- Whether a contract keeps all rules. -/
structure Contract.Sound (c : Contract) : Prop where
  name : ItemName c.name
  distinct : (c.methods.map Method.name).Nodup
  methods : ∀ m ∈ c.methods, m.Sound

/-! ## Places -/

/-- The rules for one parameter. -/
inductive ParamRule where
  | name
  | repeated
  | context

/-- The place of a rule among those for one parameter. -/
def ParamRule.rank : ParamRule → Nat
  | name => 0
  | repeated => 1
  | context => 2

/-- The order of the rules for one parameter. -/
def ParamRule.Before (rule rule' : ParamRule) : Prop :=
  rule.rank < rule'.rank

/-- An item of a method that can break a rule. -/
inductive MethodPlace where
  | repeated
  | name
  | param (index : Nat) (rule : ParamRule)
  | ttl
  | reference (index : Nat)
  | jitter
  | refresh
  | keys
  | recorded (index : Nat)

namespace MethodPlace

/-- The stage at which an item is looked at. -/
def stage : MethodPlace → Nat
  | repeated => 0
  | name => 1
  | param _ _ => 2
  | ttl => 3
  | reference _ => 4
  | jitter => 5
  | refresh => 6
  | keys => 7
  | recorded _ => 8

/-- The position of an item within its stage. -/
def position : MethodPlace → Nat ×ₗ Nat
  | param i rule => toLex (i, rule.rank)
  | reference i => toLex (i, 0)
  | recorded i => toLex (i, 0)
  | _ => toLex (0, 0)

/-- Stage by stage, and by position within a stage. -/
def rank (place : MethodPlace) : Nat ×ₗ Nat ×ₗ Nat :=
  toLex (place.stage, place.position)

/-- The order of the items of a method. -/
def Before (place place' : MethodPlace) : Prop :=
  place.rank < place'.rank

end MethodPlace

/-- A place in a contract: the contract itself, or an item of the method
at an index. -/
inductive ContractPlace where
  | contract
  | method (index : Nat) (place : MethodPlace)

/-- The contract itself comes first.  The methods follow in their order,
each with all its items. -/
inductive ContractPlace.Before : ContractPlace → ContractPlace → Prop where
  | contract (i : Nat) (place : MethodPlace) :
      Before .contract (.method i place)
  | methods {i j : Nat} (h : i < j) (place place' : MethodPlace) :
      Before (.method i place) (.method j place')
  | items (i : Nat) {place place' : MethodPlace} (h : place.Before place') :
      Before (.method i place) (.method i place')

/-! ## Broken rules -/

/-- The rules that a parameter breaks, with the error, given the names
before it and its index. -/
inductive Param.Breaks (q : Param) (earlier : List String) (index : Nat) :
    ParamRule → ValidationError → Prop where
  | name (h : ¬ ItemName q.name) :
      Breaks q earlier index .name (.invalidIdentifier "parameter" q.name)
  | repeated (h : q.name ∈ earlier) :
      Breaks q earlier index .repeated (.duplicate "parameter" q.name)
  | context (h : q.kind = .context) (hindex : index ≠ 0) :
      Breaks q earlier index .context (.misplacedContext q.name)

/-- The rules that a method breaks, with the place and the error. -/
inductive Method.Breaks (m : Method) : MethodPlace → ValidationError → Prop
    where
  | name (h : ¬ ItemName m.name) :
      Breaks m .name (.invalidIdentifier "method" m.name)
  | param {i : Nat} {q : Param} {rule : ParamRule} {e : ValidationError}
      (hq : m.params[i]? = some q)
      (h : q.Breaks (namesBefore Param.name m.params i) i rule e) :
      Breaks m (.param i rule) e
  | ttl {p : CachePolicy} (hp : m.cache = some p)
      (h : p.ttl.nanoseconds = 0) : Breaks m .ttl .zeroTtl
  | reference {p : CachePolicy} {i : Nat} {q : Param}
      (hp : m.cache = some p) (hq : m.params[i]? = some q)
      (h : q.isMutRef = true) :
      Breaks m (.reference i) (.mutableCacheParam q.name)
  | jitter {p : CachePolicy} (hp : m.cache = some p)
      (h : ¬ InPercentRange p.jitterPercent) :
      Breaks m .jitter (.percentOutOfRange "jitter_percent" p.jitterPercent)
  | refresh {p : CachePolicy} (hp : m.cache = some p)
      (h : ¬ InPercentRange p.refreshThresholdPercent) :
      Breaks m .refresh (.percentOutOfRange "refresh_threshold_percent"
        p.refreshThresholdPercent)
  | keys {p : EvictPolicy} (hp : m.evict = some p) (h : p.keys = []) :
      Breaks m .keys .emptyEvictPolicy
  | recorded {p : TracePolicy} {i : Nat} {a : String}
      (hp : m.trace = some p) (ha : p.attributes[i]? = some a)
      (h : ¬ m.FirstIsValue a) :
      Breaks m (.recorded i) (.unknownTraceAttribute a)

/-- The rules that a contract breaks, with the place and the error.  An
error names the contract and the method that it is about. -/
inductive Contract.Breaks (c : Contract) : ContractPlace → MethodError → Prop
    where
  | name (h : ¬ ItemName c.name) :
      Breaks c .contract (.ofValidation c.name contractScope
        (.invalidIdentifier "contract" c.name))
  | repeated {i : Nat} {m : Method} (hm : c.methods[i]? = some m)
      (h : m.name ∈ namesBefore Method.name c.methods i) :
      Breaks c (.method i .repeated) (.ofValidation c.name m.name
        (.duplicate "method" m.name))
  | method {i : Nat} {m : Method} {place : MethodPlace}
      {e : ValidationError} (hm : c.methods[i]? = some m)
      (h : m.Breaks place e) :
      Breaks c (.method i place) (.ofValidation c.name m.name e)

/-! ## Names -/

theorem isItemName_iff (name : String) :
    Text.isItemName name = true ↔ ItemName name := by
  simp only [Text.isItemName, Bool.and_eq_true, Bool.not_eq_true']
  exact ⟨fun h => ⟨h.1, h.2⟩, fun h => ⟨h.1, h.2⟩⟩

theorem listing_nameViolations {ι : Type} (before : ι → ι → Prop)
    (place : ι) (kind name : String) :
    Listing before (fun i e => i = place ∧ ¬ ItemName name
      ∧ e = .invalidIdentifier kind name) (nameViolations kind name) := by
  have h := Listing.ite before place (¬ Text.isItemName name = true)
    (ValidationError.invalidIdentifier kind name)
  simpa only [nameViolations, ite_not, isItemName_iff] using h

theorem listing_percentViolations {ι : Type} (before : ι → ι → Prop)
    (place : ι) (field : String) (x : Double) :
    Listing before (fun i e => i = place ∧ ¬ InPercentRange x
      ∧ e = .percentOutOfRange field x) (percentViolations field x) := by
  have h := Listing.ite before place (¬ isPercent x = true)
    (ValidationError.percentOutOfRange field x)
  simpa only [percentViolations, ite_not, isPercent_iff] using h

/-- The names seen up to an item, the last one first, and the number of
items that had them. -/
def passed {α : Type} (name : α → String) (s : List String × Nat) (a : α) :
    List String × Nat :=
  (name a :: s.1, s.2 + 1)

/-- On the way to an index the names before it are seen. -/
theorem foldl_passed {α : Type} (name : α → String) (as : List α) {i : Nat}
    (hi : i ≤ as.length) :
    (as.take i).foldl (passed name) ([], 0)
      = ((namesBefore name as i).reverse, i) := by
  have hseen (bs : List α) (s : List String × Nat) :
      bs.foldl (passed name) s
        = ((bs.map name).reverse ++ s.1, s.2 + bs.length) := by
    induction bs generalizing s with
    | nil => rfl
    | cons b bs ih =>
      simp [ih, passed, Nat.add_right_comm, Nat.add_assoc]
  rw [hseen, List.append_nil, Nat.zero_add, List.length_take_of_le hi,
    namesBefore]

/-- Names are pairwise distinct exactly if none of them repeats an earlier
one. -/
theorem nodup_map_iff {α : Type} (name : α → String) (as : List α) :
    (as.map name).Nodup
      ↔ ∀ i a, as[i]? = some a → name a ∉ namesBefore name as i := by
  rw [List.Nodup, List.pairwise_map, List.pairwise_iff_getElem]
  simp only [namesBefore, List.mem_map, List.mem_take_iff_getElem,
    List.getElem?_eq_some_iff]
  constructor
  · rintro h i _ ⟨hi, rfl⟩ ⟨_, ⟨j, hj, rfl⟩, heq⟩
    exact h j i (by omega) hi (by omega) heq
  · intro h j i hj hi hji heq
    exact h i _ ⟨hi, rfl⟩ ⟨_, ⟨j, by omega, rfl⟩, heq⟩

/-! ## Parameters -/

namespace Param

variable {q : Param} {index : Nat} {rule : ParamRule} {e : ValidationError}

/-- Only the membership of earlier names counts. -/
theorem Breaks.of_mem_iff {earlier earlier' : List String}
    (hiff : ∀ s, s ∈ earlier ↔ s ∈ earlier')
    (h : q.Breaks earlier index rule e) :
    q.Breaks earlier' index rule e := by
  cases h with
  | name h => exact .name h
  | repeated h => exact .repeated ((hiff _).mp h)
  | context h hindex => exact .context h hindex

theorem Breaks.rank {earlier : List String}
    (h : q.Breaks earlier index rule e) : rule.rank < 3 := by
  cases h <;> decide

/-- The rules for one parameter are checked in their order. -/
theorem listing_violations (q : Param) (seen : List String) (index : Nat) :
    Listing ParamRule.Before (q.Breaks seen index)
      (nameViolations "parameter" q.name
        ++ (if seen.contains q.name then [.duplicate "parameter" q.name]
            else [])
        ++ (if q.kind == .context && index != 0 then
              [.misplacedContext q.name]
            else [])) := by
  have hname : Listing ParamRule.Before
      (fun rule e => q.Breaks seen index rule e ∧ rule.rank < 1)
      (nameViolations "parameter" q.name) := by
    refine (listing_nameViolations _ .name _ _).congr fun rule e => ?_
    constructor
    · rintro ⟨rfl, h, rfl⟩
      exact ⟨.name h, Nat.one_pos⟩
    · rintro ⟨⟨h⟩ | _ | _, hrank⟩
      · exact ⟨rfl, h, rfl⟩
      all_goals exact absurd hrank (by decide)
  have hrepeated : Listing ParamRule.Before
      (fun rule e => q.Breaks seen index rule e ∧ rule.rank = 1)
      (if seen.contains q.name then
        [ValidationError.duplicate "parameter" q.name] else []) := by
    refine (Listing.ite _ .repeated _ _).congr fun rule e => ?_
    rw [List.contains_iff_mem]
    constructor
    · rintro ⟨rfl, h, rfl⟩
      exact ⟨.repeated h, rfl⟩
    · rintro ⟨_ | ⟨h⟩ | _, hrank⟩
      · cases hrank
      · exact ⟨rfl, h, rfl⟩
      · cases hrank
  have hcontext : Listing ParamRule.Before
      (fun rule e => q.Breaks seen index rule e ∧ rule.rank = 2)
      (if q.kind == .context && index != 0 then
        [ValidationError.misplacedContext q.name] else []) := by
    refine (Listing.ite _ .context _ _).congr fun rule e => ?_
    rw [Bool.and_eq_true, beq_iff_eq, bne_iff_ne]
    constructor
    · rintro ⟨rfl, ⟨h, hindex⟩, rfl⟩
      exact ⟨.context h hindex, rfl⟩
    · rintro ⟨_ | _ | ⟨h, hindex⟩, hrank⟩
      · cases hrank
      · cases hrank
      · exact ⟨rfl, ⟨h, hindex⟩, rfl⟩
  have hstage : ∀ rule rule' : ParamRule, rule.rank < rule'.rank →
      rule.Before rule' := fun _ _ => id
  refine ((hname.append_stage hstage hrepeated).append_stage hstage
    hcontext).congr fun rule e => ?_
  exact and_iff_left_of_imp Breaks.rank

end Param

/-- The parameters are checked in their order. -/
theorem listing_paramViolations (params : List Param) :
    Listing (Prod.Lex (· < ·) ParamRule.Before)
      (fun (place : Nat × ParamRule) e => ∃ q, params[place.1]? = some q
        ∧ q.Breaks (namesBefore Param.name params place.1) place.1
          place.2 e)
      (paramViolations [] 0 params) := by
  have h := listing_accumulate (passed Param.name)
    (fun s => paramViolations s.1 s.2)
    (fun s q => q.listing_violations s.1 s.2) (fun _ => rfl)
    (fun _ _ _ => rfl) ([], 0) params
  refine h.congr fun place e => ?_
  refine exists_congr fun q => and_congr_right fun hq => ?_
  rw [foldl_passed _ _ (List.getElem?_eq_some_iff.mp hq).1.le]
  exact ⟨.of_mem_iff fun _ => List.mem_reverse,
    .of_mem_iff fun _ => List.mem_reverse.symm⟩

/-! ## Methods -/

namespace MethodPlace

variable {place place' : MethodPlace}

theorem before_of_stage (h : place.stage < place'.stage) :
    place.Before place' :=
  Prod.Lex.toLex_lt_toLex.mpr (.inl h)

theorem before_of_position (hstage : place.stage = place'.stage)
    (h : place.position < place'.position) : place.Before place' :=
  Prod.Lex.toLex_lt_toLex.mpr (.inr ⟨hstage, h⟩)

end MethodPlace

namespace Method

open MethodPlace (Before before_of_stage before_of_position)

variable (m : Method)

/-- Whether an item of a stage breaks a rule. -/
def BreaksAt (stage : Nat) (place : MethodPlace) (e : ValidationError) :
    Prop :=
  m.Breaks place e ∧ place.stage = stage

theorem listing_name :
    Listing Before (m.BreaksAt 1) (nameViolations "method" m.name) := by
  refine (listing_nameViolations _ .name _ _).congr fun place e => ?_
  constructor
  · rintro ⟨rfl, h, rfl⟩
    exact ⟨.name h, rfl⟩
  · rintro ⟨h, hstage⟩
    cases h with
    | name h => exact ⟨rfl, h, rfl⟩
    | _ => cases hstage

theorem listing_params :
    Listing Before (m.BreaksAt 2) (paramViolations [] 0 m.params) := by
  have h := (listing_paramViolations m.params).map Before
    (fun place => .param place.1 place.2) <| by
      rintro _ _ (⟨_, _, hlt⟩ | ⟨_, hlt⟩)
      · exact before_of_position rfl
          (Prod.Lex.toLex_lt_toLex.mpr (.inl hlt))
      · exact before_of_position rfl
          (Prod.Lex.toLex_lt_toLex.mpr (.inr ⟨rfl, hlt⟩))
  refine h.congr fun place e => ?_
  constructor
  · rintro ⟨_, rfl, q, hq, h⟩
    exact ⟨.param hq h, rfl⟩
  · rintro ⟨h, hstage⟩
    cases h with
    | param hq h => exact ⟨(_, _), rfl, _, hq, h⟩
    | _ => cases hstage

/-- A stage at which an item of a policy is looked at. -/
theorem listing_policy {π : Type} {stage : Nat} {item : MethodPlace}
    (policy : Option π) {f : π → List ValidationError}
    {broken : π → ValidationError → Prop}
    (h : ∀ p, Listing Before (fun place e => place = item ∧ broken p e) (f p))
    (hbroken : ∀ place e, m.BreaksAt stage place e
      ↔ ∃ p, policy = some p ∧ place = item ∧ broken p e) :
    Listing Before (m.BreaksAt stage) ((policy.map f).getD []) :=
  (Listing.getD h policy).congr fun place e => (hbroken place e).symm

theorem listing_ttl :
    Listing Before (m.BreaksAt 3)
      ((m.cache.map fun p =>
        if p.ttl.isZero then [ValidationError.zeroTtl] else []).getD []) := by
  refine m.listing_policy m.cache (fun p => Listing.ite Before .ttl
    (p.ttl.isZero = true) ValidationError.zeroTtl) fun place e => ?_
  simp only [Duration.isZero, beq_iff_eq]
  constructor
  · rintro ⟨h, hstage⟩
    cases h with
    | ttl hp h => exact ⟨_, hp, rfl, h, rfl⟩
    | _ => cases hstage
  · rintro ⟨p, hp, rfl, h, rfl⟩
    exact ⟨.ttl hp h, rfl⟩

theorem listing_references :
    Listing Before (m.BreaksAt 4)
      ((m.cache.map fun _ => (m.params.filter Param.isMutRef).map fun q =>
        ValidationError.mutableCacheParam q.name).getD []) := by
  have hitems := (listing_filter Param.isMutRef
    (fun q => ValidationError.mutableCacheParam q.name) m.params).map Before
    MethodPlace.reference fun i j hij => before_of_position rfl
      (Prod.Lex.toLex_lt_toLex.mpr (.inl hij))
  refine (Listing.getD (fun _ => hitems) m.cache).congr fun place e => ?_
  constructor
  · rintro ⟨p, hp, i, rfl, q, hq, h, rfl⟩
    exact ⟨.reference hp hq h, rfl⟩
  · rintro ⟨h, hstage⟩
    cases h with
    | reference hp hq h => exact ⟨_, hp, _, rfl, _, hq, h, rfl⟩
    | _ => cases hstage

/-- A stage at which a percentage of the cache policy is looked at.  What
breaks a rule there is the percentage, which is out of its range. -/
theorem listing_percent {item : MethodPlace} (field : String)
    (value : CachePolicy → Double)
    (hbreaks : ∀ {p}, m.cache = some p → ¬ InPercentRange (value p) →
      m.Breaks item (.percentOutOfRange field (value p)))
    (honly : ∀ {place e}, m.Breaks place e → place.stage = item.stage →
      place = item ∧ ∃ p, m.cache = some p ∧ ¬ InPercentRange (value p)
        ∧ e = .percentOutOfRange field (value p)) :
    Listing Before (m.BreaksAt item.stage)
      ((m.cache.map fun p => percentViolations field (value p)).getD []) := by
  refine m.listing_policy m.cache (fun p =>
    listing_percentViolations Before item field (value p)) fun place e => ?_
  constructor
  · rintro ⟨h, hstage⟩
    obtain ⟨hplace, p, hp, hrange, he⟩ := honly h hstage
    exact ⟨p, hp, hplace, hrange, he⟩
  · rintro ⟨p, hp, rfl, hrange, rfl⟩
    exact ⟨hbreaks hp hrange, rfl⟩

theorem listing_jitter :
    Listing Before (m.BreaksAt 5)
      ((m.cache.map fun p =>
        percentViolations "jitter_percent" p.jitterPercent).getD []) := by
  refine m.listing_percent _ CachePolicy.jitterPercent .jitter ?_
  intro place e h hstage
  cases h with
  | jitter hp h => exact ⟨rfl, _, hp, h, rfl⟩
  | _ => cases hstage

theorem listing_refresh :
    Listing Before (m.BreaksAt 6)
      ((m.cache.map fun p => percentViolations "refresh_threshold_percent"
        p.refreshThresholdPercent).getD []) := by
  refine m.listing_percent _ CachePolicy.refreshThresholdPercent .refresh ?_
  intro place e h hstage
  cases h with
  | refresh hp h => exact ⟨rfl, _, hp, h, rfl⟩
  | _ => cases hstage

theorem listing_keys :
    Listing Before (m.BreaksAt 7)
      ((m.evict.map evictViolations).getD []) := by
  refine m.listing_policy m.evict (fun p => Listing.ite Before .keys
    (p.keys.isEmpty = true) ValidationError.emptyEvictPolicy)
    fun place e => ?_
  simp only [List.isEmpty_iff]
  constructor
  · rintro ⟨h, hstage⟩
    cases h with
    | keys hp h => exact ⟨_, hp, rfl, h, rfl⟩
    | _ => cases hstage
  · rintro ⟨p, hp, rfl, h, rfl⟩
    exact ⟨.keys hp h, rfl⟩

/-- The first parameter of a name is found by looking from the front. -/
theorem isValueParam_iff (name : String) :
    m.isValueParam name = true ↔ m.FirstIsValue name := by
  simp only [isValueParam, param?, FirstIsValue, Option.any_eq_true,
    List.find?_eq_some_iff_getElem, beq_iff_eq, namesBefore, List.mem_map,
    List.mem_take_iff_getElem, List.getElem?_eq_some_iff]
  constructor
  · rintro ⟨q, ⟨hname, i, hi, rfl, hfirst⟩, hkind⟩
    refine ⟨i, _, ⟨hi, rfl⟩, hname, hkind, ?_⟩
    rintro ⟨_, ⟨j, hj, rfl⟩, heq⟩
    have hne := hfirst j (by omega)
    simp [heq] at hne
  · rintro ⟨i, _, ⟨hi, rfl⟩, hname, hkind, hfirst⟩
    refine ⟨_, ⟨hname, i, hi, rfl, ?_⟩, hkind⟩
    intro j hj
    have hne : m.params[j].name ≠ name := fun heq =>
      hfirst ⟨_, ⟨j, by omega, rfl⟩, heq⟩
    simpa using hne

theorem listing_attributes :
    Listing Before (m.BreaksAt 8)
      ((m.trace.map m.traceViolations).getD []) := by
  have hitems (p : TracePolicy) := (listing_filter
    (fun a => !m.isValueParam a) ValidationError.unknownTraceAttribute
    p.attributes).map Before MethodPlace.recorded fun i j hij =>
      before_of_position rfl (Prod.Lex.toLex_lt_toLex.mpr (.inl hij))
  refine (Listing.getD hitems m.trace).congr fun place e => ?_
  simp only [Bool.not_eq_true', ← Bool.not_eq_true, isValueParam_iff]
  constructor
  · rintro ⟨p, hp, i, rfl, a, ha, h, rfl⟩
    exact ⟨.recorded hp ha h, rfl⟩
  · rintro ⟨h, hstage⟩
    cases h with
    | recorded hp ha h => exact ⟨_, hp, _, rfl, _, ha, h, rfl⟩
    | _ => cases hstage

/-- The stages of the cache policy, one behind the other. -/
theorem cacheViolations_eq :
    (m.cache.map m.cacheViolations).getD []
      = (m.cache.map fun p =>
          if p.ttl.isZero then [ValidationError.zeroTtl] else []).getD []
        ++ (m.cache.map fun _ => (m.params.filter Param.isMutRef).map
            fun q => ValidationError.mutableCacheParam q.name).getD []
        ++ (m.cache.map fun p =>
            percentViolations "jitter_percent" p.jitterPercent).getD []
        ++ (m.cache.map fun p => percentViolations
            "refresh_threshold_percent" p.refreshThresholdPercent).getD []
    := by
  cases m.cache <;> rfl

variable {m} {place : MethodPlace} {e e' : ValidationError}

theorem Breaks.stage_pos (h : m.Breaks place e) : 1 ≤ place.stage := by
  cases h <;> simp [MethodPlace.stage]

theorem Breaks.stage_lt (h : m.Breaks place e) : place.stage < 9 := by
  cases h <;> simp [MethodPlace.stage]

/-- At a place one rule is broken at most. -/
theorem Breaks.unique (h : m.Breaks place e) (h' : m.Breaks place e') :
    e = e' := by
  cases h with
  | name => cases h'; rfl
  | param hq h =>
    cases h' with
    | param hq' h' =>
      obtain rfl := Option.some.inj (hq.symm.trans hq')
      cases h <;> cases h' <;> rfl
  | ttl => cases h'; rfl
  | reference hp hq =>
    cases h' with
    | reference hp' hq' =>
      rw [Option.some.inj (hq.symm.trans hq')]
  | jitter hp =>
    cases h' with
    | jitter hp' => rw [Option.some.inj (hp.symm.trans hp')]
  | refresh hp =>
    cases h' with
    | refresh hp' => rw [Option.some.inj (hp.symm.trans hp')]
  | keys => cases h'; rfl
  | recorded hp ha =>
    cases h' with
    | recorded hp' ha' =>
      obtain rfl := Option.some.inj (hp.symm.trans hp')
      rw [Option.some.inj (ha.symm.trans ha')]

/-- A sound method breaks no rule. -/
theorem Sound.not_breaks (h : m.Sound) : ¬ m.Breaks place e := by
  intro hbreaks
  cases hbreaks with
  | name hname => exact hname h.name
  | param hq hrule =>
    cases hrule with
    | name hname => exact hname (h.params _ (List.mem_of_getElem? hq))
    | repeated hmem =>
      exact (nodup_map_iff _ _).mp h.distinct _ _ hq hmem
    | context hkind hindex => exact hindex (h.contextFirst _ _ hq hkind)
  | ttl hp hzero => exact h.ttl _ hp hzero
  | reference hp hq hmut =>
    have hnot := h.notMutable _ hp _ (List.mem_of_getElem? hq)
    rw [hmut] at hnot
    cases hnot
  | jitter hp hrange => exact hrange (h.jitter _ hp)
  | refresh hp hrange => exact hrange (h.refresh _ hp)
  | keys hp hnil => exact h.keys _ hp hnil
  | recorded hp ha hfirst =>
    exact hfirst (h.attributes _ hp _ (List.mem_of_getElem? ha))

/-- A method that breaks no rule is sound. -/
theorem sound_of_not_breaks (h : ∀ place e, ¬ m.Breaks place e) :
    m.Sound where
  name := by_contra fun hname => h _ _ (.name hname)
  params := by
    intro q hmem
    obtain ⟨i, hq⟩ := List.mem_iff_getElem?.mp hmem
    exact by_contra fun hname => h _ _ (.param hq (.name hname))
  distinct := (nodup_map_iff _ _).mpr fun i q hq hmem =>
    h _ _ (.param hq (.repeated hmem))
  contextFirst := fun i q hq hkind =>
    by_contra fun hindex => h _ _ (.param hq (.context hkind hindex))
  ttl := fun p hp hzero => h _ _ (.ttl hp hzero)
  notMutable := by
    intro p hp q hmem
    obtain ⟨i, hq⟩ := List.mem_iff_getElem?.mp hmem
    exact Bool.eq_false_of_not_eq_true fun hmut =>
      h _ _ (.reference hp hq hmut)
  jitter := fun p hp => by_contra fun hrange => h _ _ (.jitter hp hrange)
  refresh := fun p hp => by_contra fun hrange => h _ _ (.refresh hp hrange)
  keys := fun p hp hnil => h _ _ (.keys hp hnil)
  attributes := by
    intro p hp a hmem
    obtain ⟨i, ha⟩ := List.mem_iff_getElem?.mp hmem
    exact by_contra fun hfirst => h _ _ (.recorded hp ha hfirst)

/-- A sound method has at most one context. -/
theorem Sound.contexts_le_one (h : m.Sound) :
    (m.params.filter fun q => q.kind == .context).length ≤ 1 := by
  cases hparams : m.params with
  | nil => simp
  | cons q qs =>
    have hrest : qs.filter (fun q => q.kind == .context) = [] := by
      rw [List.filter_eq_nil_iff]
      intro q' hmem
      obtain ⟨i, hq⟩ := List.mem_iff_getElem?.mp hmem
      have hindex := h.contextFirst (i + 1) q' (by simp [hparams, hq])
      simpa using hindex
    rw [List.filter_cons, hrest]
    split <;> simp

variable (m)

/-- The violations of a method are the rules that it breaks, stage by
stage. -/
theorem listing_violations : Listing Before m.Breaks m.violations := by
  have hname : Listing Before
      (fun place e => m.Breaks place e ∧ place.stage < 2)
      (nameViolations "method" m.name) := by
    refine m.listing_name.congr fun place e => and_congr_right fun h => ?_
    have := h.stage_pos
    omega
  have hparams := hname.append_stage @before_of_stage m.listing_params
  have hcache := (((hparams.append_stage @before_of_stage
    m.listing_ttl).append_stage @before_of_stage
    m.listing_references).append_stage @before_of_stage
    m.listing_jitter).append_stage @before_of_stage m.listing_refresh
  have hall := (hcache.append_stage @before_of_stage
    m.listing_keys).append_stage @before_of_stage m.listing_attributes
  rw [violations, cacheViolations_eq]
  simp only [← List.append_assoc]
  exact hall.congr fun place e => and_iff_left_of_imp Breaks.stage_lt

end Method

/-! ## Contracts -/

instance : Std.Irrefl ContractPlace.Before where
  irrefl := by
    rintro _ (_ | hlt | ⟨_, hlt⟩)
    · exact absurd hlt (lt_irrefl _)
    · exact absurd hlt (lt_irrefl _)

instance : Std.Antisymm ContractPlace.Before where
  antisymm := by
    rintro _ _ (_ | hlt | ⟨_, hlt⟩) h'
    · cases h'
    · cases h' with
      | methods hlt' => omega
      | items => omega
    · cases h' with
      | methods hlt' => omega
      | items _ hlt' => exact absurd hlt (lt_asymm hlt')

namespace Contract

variable (c : Contract)

/-- At a place one rule is broken at most. -/
theorem Breaks.unique {c : Contract} {place : ContractPlace}
    {e e' : MethodError} (h : c.Breaks place e) (h' : c.Breaks place e') :
    e = e' := by
  cases h with
  | name => cases h'; rfl
  | repeated hm =>
    cases h' with
    | repeated hm' => rw [Option.some.inj (hm.symm.trans hm')]
    | method _ h' => exact absurd h'.stage_pos (by decide)
  | method hm h =>
    cases h' with
    | repeated => exact absurd h.stage_pos (by decide)
    | method hm' h' =>
      obtain rfl := Option.some.inj (hm.symm.trans hm')
      rw [h.unique h']

/-- The violations of the methods are what is broken there, method by
method. -/
theorem listing_methodViolations :
    Listing (Prod.Lex (· < ·) MethodPlace.Before)
      (fun (place : Nat × MethodPlace) e =>
        c.Breaks (.method place.1 place.2) e)
      (methodViolations c.name [] c.methods) := by
  have hitem (s : List String × Nat) (m : Method) :=
    ((Listing.ite MethodPlace.Before .repeated (s.1.contains m.name = true)
      (ValidationError.duplicate "method" m.name)).append
        m.listing_violations <| by
      rintro _ j _ e ⟨rfl, -⟩ h
      exact MethodPlace.before_of_stage h.stage_pos).image
        (MethodError.ofValidation c.name m.name)
  have h := listing_accumulate (passed Method.name)
    (fun s => methodViolations c.name s.1) hitem (fun _ => rfl)
    (fun _ _ _ => rfl) ([], 0) c.methods
  refine h.congr fun place e => ?_
  constructor
  · rintro ⟨m, hm, e, ⟨hplace, hmem, rfl⟩ | h, rfl⟩
    · rw [foldl_passed _ _ (List.getElem?_eq_some_iff.mp hm).1.le,
        List.contains_iff_mem, List.mem_reverse] at hmem
      rw [hplace]
      exact .repeated hm hmem
    · exact .method hm h
  · obtain ⟨i, place⟩ := place
    intro h
    cases h with
    | repeated hm hmem =>
      refine ⟨_, hm, _, .inl ⟨rfl, ?_, rfl⟩, rfl⟩
      rw [foldl_passed _ _ (List.getElem?_eq_some_iff.mp hm).1.le,
        List.contains_iff_mem, List.mem_reverse]
      exact hmem
    | method hm h => exact ⟨_, hm, _, .inr h, rfl⟩

/-- The violations of a contract are the rules that it breaks, place by
place. -/
theorem listing_violations :
    Listing ContractPlace.Before c.Breaks c.violations := by
  have hname := (listing_nameViolations ContractPlace.Before .contract
    "contract" c.name).image (MethodError.ofValidation c.name contractScope)
  have hmethods := c.listing_methodViolations.map ContractPlace.Before
    (fun place => .method place.1 place.2) <| by
      rintro _ _ (⟨_, _, hlt⟩ | ⟨_, hlt⟩)
      · exact .methods hlt _ _
      · exact .items _ hlt
  refine (hname.append hmethods ?_).congr fun place e => ?_
  · rintro _ _ _ _ ⟨_, ⟨rfl, -⟩, -⟩ ⟨_, rfl, -⟩
    exact .contract _ _
  · constructor
    · rintro (⟨_, ⟨rfl, h, rfl⟩, rfl⟩ | ⟨_, rfl, h⟩)
      · exact .name h
      · exact h
    · intro h
      cases place with
      | contract =>
        cases h with
        | name h => exact .inl ⟨_, ⟨rfl, h, rfl⟩, rfl⟩
      | method i place => exact .inr ⟨(i, place), rfl, h⟩

/-- An error is listed exactly if it is that of a broken rule. -/
theorem mem_violations_iff {e : MethodError} :
    e ∈ c.violations ↔ ∃ place, c.Breaks place e :=
  c.listing_violations.mem_iff fun _ _ _ h h' => h.unique h'

/-- A contract is sound exactly if it breaks no rule. -/
theorem sound_iff : c.Sound ↔ ∀ place e, ¬ c.Breaks place e := by
  constructor
  · intro h place e hbreaks
    cases hbreaks with
    | name hname => exact hname h.name
    | repeated hm hmem => exact (nodup_map_iff _ _).mp h.distinct _ _ hm hmem
    | method hm hbreaks =>
      exact (h.methods _ (List.mem_of_getElem? hm)).not_breaks hbreaks
  · intro h
    refine ⟨by_contra fun hname => h _ _ (.name hname), ?_, ?_⟩
    · exact (nodup_map_iff _ _).mpr fun i m hm hmem =>
        h _ _ (.repeated hm hmem)
    · intro m hmem
      obtain ⟨i, hm⟩ := List.mem_iff_getElem?.mp hmem
      exact Method.sound_of_not_breaks fun place e hbreaks =>
        h _ _ (.method hm hbreaks)

theorem isValid_iff_sound : c.isValid = true ↔ c.Sound := by
  rw [isValid, List.isEmpty_iff, c.listing_violations.eq_nil_iff,
    sound_iff]

/-- A contract is valid exactly if it is sound.  A sound contract has at
most one context in a method.  The violations are the only list that has
one error for each broken rule, the contract itself first and then method
by method. -/
theorem validation_exact :
    (c.isValid = true ↔ c.Sound)
      ∧ (c.Sound → ∀ m ∈ c.methods,
          (m.params.filter fun q => q.kind == .context).length ≤ 1)
      ∧ ∀ errors, Listing ContractPlace.Before c.Breaks errors
          ↔ errors = c.violations := by
  refine ⟨c.isValid_iff_sound, ?_, ?_⟩
  · intro h m hm
    exact (h.methods m hm).contexts_le_one
  · intro errors
    constructor
    · intro h
      have hunique : ∀ place e e', c.Breaks place e → c.Breaks place e' →
          e = e' := fun _ _ _ h h' => h.unique h'
      exact h.unique hunique c.listing_violations
    · rintro rfl
      exact c.listing_violations

end Contract

end PolicyWeave
