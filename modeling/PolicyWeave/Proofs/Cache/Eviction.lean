import PolicyWeave.Proofs.Cache.Answers
import PolicyWeave.Proofs.Cache.Guards

/-!
# Evictions

When a fetch deletes keys, and which: all of its batch, exactly if its
loader ran and succeeded.

There are three groups.

* `batches` and `loads` are what calls delete and what loaders answered
  to them, and one lemma for each phase says what they are there.
* `Fetch.EvictsExactly` is what is asked of the calls of a fetch.
* `Layer.steady_iff_evicts` is the result: the fetches that meet it on
  every host are the ones whose settings are steady.  With other settings
  a fetch may crash before its eviction, and nothing else can go wrong.
  Refreshes delete nothing.
-/

namespace PolicyWeave

variable {S V E L : Type}

/-! ## Batches and loads -/

namespace HostCall

/-- The batch that a call deletes. -/
def batch? : HostCall V E L → Option (List String)
  | .delete keys _ => some keys
  | _ => none

/-- What a loader answered to a call. -/
def loaded? : HostCall V E L → Option (Except Crash (Except E V))
  | .load _ answer => some answer
  | _ => none

end HostCall

/-- The batches that are deleted, in order. -/
def batches (calls : List (HostCall V E L)) : List (List String) :=
  calls.filterMap HostCall.batch?

/-- What loaders answered, in order. -/
def loads (calls : List (HostCall V E L)) :
    List (Except Crash (Except E V)) :=
  calls.filterMap HostCall.loaded?

theorem batches_append (calls more : List (HostCall V E L)) :
    batches (calls ++ more) = batches calls ++ batches more :=
  List.filterMap_append

theorem loads_append (calls more : List (HostCall V E L)) :
    loads (calls ++ more) = loads calls ++ loads more :=
  List.filterMap_append

/-- Calls that neither delete nor load. -/
structure Idle (calls : List (HostCall V E L)) : Prop where
  batches_eq : batches calls = []
  loads_eq : loads calls = []

section

variable {calls more : List (HostCall V E L)} {key : String}

theorem idle_of_forall
    (hall : ∀ c ∈ calls, c.batch? = none ∧ c.loaded? = none) :
    Idle calls where
  batches_eq := List.filterMap_eq_nil_iff.2 fun c hc => (hall c hc).1
  loads_eq := List.filterMap_eq_nil_iff.2 fun c hc => (hall c hc).2

theorem Idle.append (hc : Idle calls) (hm : Idle more) :
    Idle (calls ++ more) where
  batches_eq := by
    rw [batches_append, hc.batches_eq, hm.batches_eq, List.append_nil]
  loads_eq := by
    rw [loads_append, hc.loads_eq, hm.loads_eq, List.append_nil]

theorem idle_released (locked : Bool) :
    Idle (released locked key : List (HostCall V E L)) := by
  cases locked <;> exact ⟨rfl, rfl⟩

theorem Recorded.idle {settings : CacheSettings} {wb : WriteBack}
    {outcome : Except Crash Unit}
    (hr : Recorded settings key wb outcome calls) : Idle calls := by
  refine idle_of_forall fun c hc => ?_
  rcases hr.mem_cases hc with ⟨_, rfl⟩ | ⟨_, _, _, rfl⟩ | ⟨_, _, _, rfl⟩
  all_goals exact ⟨rfl, rfl⟩

theorem Served.idle {h : Host S V E L} {f : Fetch V E L}
    {result : Except E V} (hs : Served h f result calls) :
    Idle calls := by
  refine idle_of_forall fun c hc => ?_
  rcases hs.mem_cases hc with ⟨_, rfl⟩ | ⟨_, rfl⟩ | rfl | rfl
  all_goals exact ⟨rfl, rfl⟩

theorem Approach.idle {h : Host S V E L} {f : Fetch V E L}
    {locked : Bool} (ha : Approach h f locked calls) : Idle calls := by
  refine idle_of_forall fun c hc => ?_
  rcases ha.mem_cases hc with ⟨_, rfl⟩ | ⟨_, rfl⟩ | ⟨_, rfl⟩
  all_goals exact ⟨rfl, rfl⟩

/-- An eviction deletes its batch and nothing else. -/
theorem Evicted.batches_eq {batch : Option (List String)}
    (he : Evicted batch calls) :
    batches calls = batch.toList ∧ loads calls = [] := by
  cases he with
  | nothing => exact ⟨rfl, rfl⟩
  | batch keys answer => exact ⟨rfl, rfl⟩

end

/-! ## What a fetch loads -/

/-- Whether a random word selects no time for an entry to live. -/
def Unlucky (settings : CacheSettings) (calls : List (HostCall V E L)) :
    Prop :=
  ∃ word, .draw word ∈ calls
    ∧ Jitter.sample? settings.ttl settings.jitterPercent word = none

/-- Whether a fetch comes to what its loader answered, or crashes behind
a loader that answered because a random word selects no time. -/
def Fetch.Follows (f : Fetch V E L) (calls : List (HostCall V E L))
    (answer outcome : Except Crash (Except E V)) : Prop :=
  outcome = answer
    ∨ outcome = .error .noDuration ∧ Unlucky f.settings calls

section

variable {h : Host S V E L} {f : Fetch V E L}
  {calls more : List (HostCall V E L)}

theorem Fetch.Follows.mono {answer outcome : Except Crash (Except E V)}
    (hf : f.Follows calls answer outcome) (hsub : calls ⊆ more) :
    f.Follows more answer outcome := by
  rcases hf with heq | ⟨heq, word, hword, hnone⟩
  · exact .inl heq
  · exact .inr ⟨heq, word, hsub hword, hnone⟩

/-- Loading runs the loader once and deletes nothing. -/
theorem Loaded.loads_eq {outcome : Except Crash (Except E V)}
    (hl : Loaded f outcome calls) :
    batches calls = [] ∧ ∃ answer, loads calls = [answer]
      ∧ f.Follows calls answer outcome := by
  cases hl with
  | @recorded result more hr =>
    refine ⟨hr.idle.batches_eq, .ok result, ?_, .inl rfl⟩
    exact congrArg (.ok result :: ·) hr.idle.loads_eq
  | @unrecorded result c more hr =>
    refine ⟨hr.idle.batches_eq, .ok result, ?_, .inr ?_⟩
    · exact congrArg (.ok result :: ·) hr.idle.loads_eq
    · cases hr with
      | noDuration sampled => exact ⟨rfl, _, by simp, sampled⟩
  | crashed c => exact ⟨rfl, .error c, rfl, .inl rfl⟩

/-- What serves a fetch was found under its key. -/
theorem Served.exists_found {result : Except E V}
    (hs : Served h f result calls) :
    ∃ answer, .get f.key answer ∈ calls
      ∧ f.codec.found? answer = some result := by
  cases hs with
  | hit found => exact ⟨_, List.mem_cons_self, found⟩
  | hitAgain found => exact ⟨_, by simp, found⟩

/-- A fetch up to its eviction deletes nothing.  It is served by a
look-up and loads nothing, or it runs its loader once. -/
theorem Exchange.loads_eq
    {populated : Except Crash (Except E V × Origin)}
    (hex : Exchange h f populated calls) :
    batches calls = [] ∧
      ((∃ result, Served h f result calls ∧ loads calls = []
          ∧ populated = .ok (result, .cached))
        ∨ ∃ answer outcome, loads calls = [answer]
          ∧ f.Follows calls answer outcome
          ∧ populated = outcome.map (·, .loaded)) := by
  rcases hex.served_or_loaded with
    ⟨result, hserved, rfl⟩ | ⟨locked, before, more, outcome, happroach,
      hloaded, rfl, rfl⟩
  · exact ⟨hserved.idle.batches_eq,
      .inl ⟨result, hserved, hserved.idle.loads_eq, rfl⟩⟩
  · obtain ⟨hbatches, answer, hloads, hfollows⟩ := hloaded.loads_eq
    have hlast : Idle (released locked f.key : List (HostCall V E L)) :=
      idle_released locked
    refine ⟨?_, .inr ⟨answer, outcome, ?_, hfollows.mono (by simp), rfl⟩⟩
    · rw [batches_append, batches_append, happroach.idle.batches_eq,
        hbatches, hlast.batches_eq]
      rfl
    · rw [loads_append, loads_append, happroach.idle.loads_eq, hloads,
        hlast.loads_eq]
      rfl

end

/-! ## Fetches -/

/-- What is asked of the calls of a fetch that evicts.  At most one batch
is deleted, and it is the whole batch of the fetch, in order.  One is
deleted exactly if the batch has keys and the loader ran and succeeded.
The fetch comes to what its loader answered, or, if that was not run, to
what was found under its key. -/
structure Fetch.EvictsExactly (f : Fetch V E L)
    (outcome : Except Crash (Except E V)) (calls : List (HostCall V E L)) :
    Prop where
  once : (batches calls).length ≤ 1
  whole : ∀ keys ∈ batches calls, f.evicts = some keys
  exact : batches calls ≠ [] ↔
    (∃ value, .ok (.ok value) ∈ loads calls)
      ∧ ∃ keys, f.evicts = some keys ∧ keys ≠ []
  loaded : ∀ answer ∈ loads calls, outcome = answer
  cached : loads calls = [] → ∃ answer result,
    .get f.key answer ∈ calls ∧ f.codec.found? answer = some result
      ∧ outcome = .ok result

section

variable {h : Host S V E L} {f : Fetch V E L}
  {calls last : List (HostCall V E L)}

/-- The batches of a fetch are those of its eviction. -/
theorem Fetch.batches_eq {populated : Except Crash (Except E V × Origin)}
    (hex : Exchange h f populated calls)
    (he : Evicted (f.evictionOf populated) last) :
    batches (calls ++ last) = (f.evictionOf populated).toList
      ∧ loads (calls ++ last) = loads calls := by
  rw [batches_append, loads_append, hex.loads_eq.1, he.batches_eq.1,
    he.batches_eq.2, List.append_nil, List.nil_append]
  exact ⟨rfl, rfl⟩

/-- A batch is deleted behind a success that was loaded, and behind
nothing else. -/
theorem Fetch.evictionOf_eq_some
    {populated : Except Crash (Except E V × Origin)}
    {keys : List String} :
    f.evictionOf populated = some keys ↔
      f.evicts = some keys ∧ keys ≠ []
        ∧ ∃ value, populated = .ok (.ok value, .loaded) := by
  match populated with
  | .error c => simp [Fetch.evictionOf]
  | .ok (result, .cached) => simp [Fetch.evictionOf]
  | .ok (.error e, .loaded) => simp [Fetch.evictionOf, batchOf]
  | .ok (.ok value, .loaded) =>
    simp only [Fetch.evictionOf, batchOf, Option.bind_eq_some_iff,
      Option.ite_none_left_eq_some, Option.some.injEq]
    constructor
    · rintro ⟨_, hkeys, hne, rfl⟩
      exact ⟨hkeys, hne, value, rfl⟩
    · rintro ⟨hkeys, hne, -⟩
      exact ⟨keys, hkeys, hne, rfl⟩

/-- Whatever the settings, what is deleted behind a fetch is its whole
batch, and only behind a loader that ran and succeeded. -/
theorem Fetch.of_mem_batches {populated : Except Crash (Except E V × Origin)}
    (hex : Exchange h f populated calls)
    (he : Evicted (f.evictionOf populated) last) {keys : List String}
    (hkeys : keys ∈ batches (calls ++ last)) :
    f.evicts = some keys ∧ keys ≠ [] ∧ ∃ value,
      loads (calls ++ last) = [.ok (.ok value)]
        ∧ populated.map Prod.fst = .ok (.ok value) := by
  obtain ⟨hbatches, hloads⟩ := f.batches_eq hex he
  rw [hbatches, Option.mem_toList] at hkeys
  obtain ⟨hevicts, hne, value, rfl⟩ := Fetch.evictionOf_eq_some.mp hkeys
  refine ⟨hevicts, hne, value, ?_, rfl⟩
  rcases hex.loads_eq.2 with
    ⟨result, -, -, heq⟩ | ⟨answer, outcome, hload, hfollows, heq⟩
  · cases heq
  · match outcome, heq with
    | .ok _, rfl =>
      rcases hfollows with rfl | ⟨hcrash, -⟩
      · rw [hloads, hload]
      · cases hcrash

/-- A fetch whose random word selects a time evicts exactly. -/
theorem Fetch.evictsExactly {populated : Except Crash (Except E V × Origin)}
    (hex : Exchange h f populated calls)
    (he : Evicted (f.evictionOf populated) last)
    (hlucky : ¬ Unlucky f.settings calls) :
    f.EvictsExactly (populated.map Prod.fst) (calls ++ last) := by
  obtain ⟨hbatches, hloads⟩ := f.batches_eq hex he
  have hmem {keys : List String} (hkeys : keys ∈ batches (calls ++ last)) :=
    f.of_mem_batches hex he hkeys
  constructor
  case once =>
    rw [hbatches]
    cases f.evictionOf populated <;> simp
  case whole => exact fun keys hkeys => (hmem hkeys).1
  case exact =>
    constructor
    · intro hne
      obtain ⟨keys, hkeys⟩ := List.exists_mem_of_ne_nil _ hne
      obtain ⟨hevicts, hne, value, hload, -⟩ := hmem hkeys
      exact ⟨⟨value, by simp [hload]⟩, keys, hevicts, hne⟩
    · rintro ⟨⟨value, hvalue⟩, keys, hevicts, hne⟩
      rw [hloads] at hvalue
      rcases hex.loads_eq.2 with
        ⟨result, -, hload, -⟩ | ⟨answer, outcome, hload, hfollows, heq⟩
      · rw [hload] at hvalue
        cases hvalue
      · obtain rfl : .ok (.ok value) = answer := by
          simpa [hload] using hvalue
        obtain rfl := hfollows.resolve_right fun hcrash => hlucky hcrash.2
        have hsome : f.evictionOf populated = some keys :=
          Fetch.evictionOf_eq_some.mpr ⟨hevicts, hne, value, heq⟩
        rw [hbatches, hsome]
        simp
  case loaded =>
    intro answer hanswer
    rw [hloads] at hanswer
    rcases hex.loads_eq.2 with
      ⟨result, -, hload, -⟩ | ⟨answer', outcome, hload, hfollows, heq⟩
    · rw [hload] at hanswer
      cases hanswer
    · obtain rfl : answer = answer' := by simpa [hload] using hanswer
      obtain rfl := hfollows.resolve_right fun hcrash => hlucky hcrash.2
      rw [heq]
      cases outcome <;> rfl
  case cached =>
    intro hnone
    rw [hloads] at hnone
    rcases hex.loads_eq.2 with
      ⟨result, hserved, -, rfl⟩ | ⟨answer, outcome, hload, -, -⟩
    · obtain ⟨answer, hget, hfound⟩ := hserved.exists_found
      exact ⟨answer, result, List.mem_append_left _ hget, hfound, rfl⟩
    · rw [hload] at hnone
      cases hnone

end

/-! ## Refreshes -/

section

variable {h : Host S V E L} {r : Refresh V E L}
  {calls : List (HostCall V E L)}

theorem Reloaded.batches_eq {outcome : Except Crash Unit}
    (hr : Reloaded r outcome calls) : batches calls = [] := by
  cases hr with
  | recorded hrecorded => exact hrecorded.idle.batches_eq
  | crashed c => rfl

/-- A refresh deletes nothing. -/
theorem RefreshExchange.batches_eq {outcome : Except Crash Unit}
    (hex : RefreshExchange h r outcome calls) : batches calls = [] := by
  cases hex with
  | unlocked _ hr => exact hr.batches_eq
  | refused _ => rfl
  | locked _ hr =>
    rw [batches_append, batches]
    exact List.append_eq_nil_iff.2 ⟨hr.batches_eq, rfl⟩

/-- Nor does any step of a refresh. -/
theorem RefreshMove.batches_eq {stage next : RefreshStage V E}
    (hmove : RefreshMove h r stage next calls) : batches calls = [] := by
  cases hmove with
  | recorded locked hr =>
    exact (hr.idle.append (idle_released locked)).batches_eq
  | crashed locked c => exact (idle_released locked).batches_eq
  | _ => rfl

end

/-! ## The result -/

/-- With steady settings no random word is without a time, so a fetch
evicts exactly. -/
theorem Fetch.evictsExactly_of_steady {f : Fetch V E L}
    (hs : f.settings.Steady) (h : Host S V E L)
    (hdraw : ∀ s, (h.draw s).1 < UInt64.size) (s : S) :
    let run := (Layer.fetch (h.traced id) f).settled ⟨s, []⟩
    f.EvictsExactly run.1 run.2.notes := by
  intro run
  obtain ⟨⟨populated, first, last, hex, he, hcalls, hout⟩, path⟩ :=
    (Layer.makes_fetch (h.traced id) f).notes s
  have hlucky : ¬ Unlucky f.settings first := by
    rintro ⟨word, hword, hnone⟩
    have hmem : .draw word ∈ run.2.notes :=
      hcalls ▸ List.mem_append_left _ hword
    obtain ⟨_, _, does⟩ := path.does_of_mem hmem
    have hlt : word < UInt64.size := by
      cases does
      exact hdraw _
    have hsome := hs word hlt
    rw [hnone] at hsome
    cases hsome
  have hexact := f.evictsExactly hex he hlucky
  rw [← hcalls, ← hout] at hexact
  exact hexact

/-- A word without a time keeps a fetch from coming to what its loader
answered. -/
theorem Layer.not_evictsExactly_bare {settings : CacheSettings}
    {word : Nat}
    (hnone : Jitter.sample? settings.ttl settings.jitterPercent word
      = none) :
    let run := (fetch ((Host.bare word).traced id)
      (.unit settings)).settled ⟨(), []⟩
    ¬ (Fetch.unit settings).EvictsExactly run.1 run.2.notes := by
  have hcrash := Layer.populate_of_none (h := (Host.bare word).traced id)
    (f := .unit settings) (s := ⟨(), []⟩) rfl rfl rfl rfl hnone
  intro run hexact
  have hrun : run = (.error .noDuration, _) :=
    Act.settled_bind_of_error hcrash
  rw [hrun] at hexact
  have hloaded := hexact.loaded (.ok (.ok ())) List.mem_cons_self
  cases hloaded

/-- Evictions are exact.  The fetches with some settings evict exactly on
every host, whatever it answers, if and only if the settings are steady.
With any settings a batch is deleted only behind a loader that ran and
succeeded.  Evicting behind a call deletes the whole batch if the call
succeeded and there are keys, and hands the result back.  A refresh that
is run to its end deletes nothing, and neither does any step of one. -/
theorem Layer.steady_iff_evicts (settings : CacheSettings) :
    (settings.Steady ↔
      ∀ (S V E L : Type) (h : Host S V E L) (f : Fetch V E L) (s : S),
        (∀ s, (h.draw s).1 < UInt64.size) → f.settings = settings →
        let run := (fetch (h.traced id) f).settled ⟨s, []⟩
        f.EvictsExactly run.1 run.2.notes)
      ∧ (∀ (S V E L : Type) (h : Host S V E L) (f : Fetch V E L) (s : S),
          let run := (fetch (h.traced id) f).settled ⟨s, []⟩
          ∀ keys ∈ batches run.2.notes, batches run.2.notes = [keys]
            ∧ f.evicts = some keys ∧ keys ≠ [] ∧ ∃ value,
              loads run.2.notes = [.ok (.ok value)]
                ∧ run.1 = .ok (.ok value))
      ∧ (∀ (S V E L : Type) (h : Host S V E L) (method : String)
          (keys : List String) (result : Except E V) (s : S),
          let run := evictOnSuccess (h.traced id) method keys result ⟨s, []⟩
          run.1 = result ∧ batches run.2.notes
            = match result with
              | .ok _ => if keys = [] then [] else [keys]
              | .error _ => [])
      ∧ ∀ (S V E L : Type) (h : Host S V E L) (r : Refresh V E L) (s : S),
          batches ((refresh (h.traced id) r).settled ⟨s, []⟩).2.notes = []
            ∧ ∀ stage,
              batches (stepRefresh (h.traced id) r stage ⟨s, []⟩).2.notes
                = [] := by
  refine ⟨⟨?_, ?_⟩, ?_, ?_, ?_⟩
  · intro hs S V E L h f s hdraw heq
    exact f.evictsExactly_of_steady (heq ▸ hs) h hdraw s
  · intro hall word hlt
    cases hsample :
        Jitter.sample? settings.ttl settings.jitterPercent word with
    | some ttl => rfl
    | none =>
      have hexact := hall Unit Unit Unit Unit (Host.bare word)
        (.unit settings) () (fun _ => hlt) rfl
      exact absurd hexact (not_evictsExactly_bare hsample)
  · intro S V E L h f s run keys hkeys
    obtain ⟨⟨populated, first, last, hex, he, hcalls, hout⟩, -⟩ :=
      (makes_fetch (h.traced id) f).notes s
    have hnotes : run.2.notes = first ++ last := hcalls
    have houtcome : run.1 = populated.map Prod.fst := hout
    rw [hnotes] at hkeys ⊢
    rw [houtcome]
    obtain ⟨hevicts, hne, hvalue⟩ := f.of_mem_batches hex he hkeys
    refine ⟨?_, hevicts, hne, hvalue⟩
    rw [(f.batches_eq hex he).1] at hkeys ⊢
    rw [Option.mem_toList] at hkeys
    rw [hkeys]
    rfl
  · intro S V E L h method keys result s
    obtain ⟨⟨hresult, he⟩, -⟩ :=
      (makes_evictOnSuccess (h.traced id) method keys result).notes s
    refine ⟨hresult, he.batches_eq.1.trans ?_⟩
    cases result with
    | error e => rfl
    | ok value =>
      rw [batchOf]
      split <;> rfl
  · intro S V E L h r s
    exact ⟨((makes_refresh (h.traced id) r).notes s).1.batches_eq,
      fun stage =>
        ((makes_stepRefresh (h.traced id) r stage).notes s).1.batches_eq⟩

/-- A fetch with the endless settings whose loader answers one, to be
followed by an eviction. -/
def Fetch.endlessEviction : Fetch Nat String (Script Nat String) :=
  { Fetch.endless with evicts := some ["a"] }

/-- The fetch crashes after its loader has run and succeeded, and deletes
nothing. -/
theorem Layer.fetch_endlessEviction :
    let host : Host (World Nat String (Script Nat String) (List Nat))
        Nat String (Script Nat String) :=
      Wiring.host ⟨.none, .none⟩ Script.run Script.pauses
    let run := (fetch (host.traced id) Fetch.endlessEviction).settled
      ⟨World.initial [], []⟩
    run.1 = .error .noDuration ∧ loads run.2.notes = [.ok (.ok 1)]
      ∧ batches run.2.notes = []
      ∧ ¬ Fetch.endlessEviction.EvictsExactly run.1 run.2.notes := by
  intro host run
  have hnone : Jitter.sample? CacheSettings.endless.ttl
      CacheSettings.endless.jitterPercent 0 = none := by
    decide +kernel
  have hcrash := populate_of_none (h := host.traced id)
    (f := .endlessEviction) (s := ⟨World.initial [], []⟩) rfl rfl rfl rfl
    hnone
  have hrun : run = (.error .noDuration, _) :=
    Act.settled_bind_of_error hcrash
  have hloads : loads run.2.notes = [.ok (.ok 1)] := by
    rw [hrun]
    rfl
  have hbatches : batches run.2.notes = [] := by
    rw [hrun]
    rfl
  refine ⟨by rw [hrun], hloads, hbatches, ?_⟩
  intro hexact
  have hne : batches run.2.notes ≠ [] := by
    rw [hexact.exact, hloads]
    exact ⟨⟨1, List.mem_singleton_self _⟩, ["a"], rfl, by decide⟩
  exact hne hbatches

end PolicyWeave
