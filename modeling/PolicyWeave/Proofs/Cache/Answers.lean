import PolicyWeave.Cache.Script
import PolicyWeave.Proofs.Cache.Protocol

/-!
# Fetches that come to an answer

A fetch varies its time to live by a random word before it records a
result.  A word may select a time that no duration holds, and then the
fetch crashes although its loader has answered.

There are four groups.

* `CacheSettings.Steady` are the settings with which no word does so, and
  `Host.Answers` are the hosts whose loaders answer and whose words have
  64 bits.  `Exchange.answers` joins the two.
* The calls of a fetch as a tracing host writes them down.
* A word that selects no time.  `populate_of_none` is the fetch that
  crashes on it, and `Host.bare` is the smallest host it crashes on.
* `steady_iff_exchange` is the result: the fetches that follow the
  protocol to an answer on every such host are the ones whose settings
  are steady.  `endless` are settings of which this fails.
-/

namespace PolicyWeave

variable {S V E L : Type}

/-! ## Steady settings -/

/-- Settings whose time to live has a duration under every jitter. -/
def CacheSettings.Steady (settings : CacheSettings) : Prop :=
  ∀ word < UInt64.size,
    (Jitter.sample? settings.ttl settings.jitterPercent word).isSome

/-- Settings without jitter are steady. -/
theorem CacheSettings.steady_of_isFixed {settings : CacheSettings}
    (hfixed : Jitter.isFixed settings.ttl settings.jitterPercent) :
    settings.Steady := by
  intro word _
  rw [Jitter.sample?, if_pos hfixed]
  rfl

/-- Calls whose answer is in order: a loader does not crash, and a random
word has 64 bits. -/
def HostCall.Orderly : HostCall V E L → Prop
  | .load _ answer => ∃ result, answer = .ok result
  | .draw word => word < UInt64.size
  | _ => True

/-- Hosts whose answers are in order. -/
structure Host.Answers (h : Host S V E L) : Prop where
  loads : ∀ loader s, ∃ result, ((h.load loader).settled s).1 = .ok result
  draws : ∀ s, (h.draw s).1 < UInt64.size

/-- Every call on such a host is answered in order. -/
theorem Host.Answers.orderly {h : Host S V E L} (ha : h.Answers)
    {c : HostCall V E L} {s t : S} (does : h.Does s (some c) t) :
    c.Orderly := by
  generalize hcall : some c = call at does
  cases does <;> cases hcall
  case load loader => exact ha.loads loader s
  case draw => exact ha.draws s
  all_goals exact trivial

/-- Steady settings leave no time without a duration. -/
theorem Recorded.answers {settings : CacheSettings}
    (hs : settings.Steady) {key : String} {wb : WriteBack}
    {outcome : Except Crash Unit} {calls : List (HostCall V E L)}
    (hr : Recorded settings key wb outcome calls)
    (ho : ∀ c ∈ calls, c.Orderly) : outcome = .ok () := by
  cases hr with
  | written _ _ => rfl
  | noDuration sampled =>
    have hsome := hs _ (ho _ List.mem_cons_self)
    rw [sampled] at hsome
    cases hsome

/-- With steady settings a loader's answer is the outcome. -/
theorem Loaded.answers {f : Fetch V E L} (hs : f.settings.Steady)
    {outcome : Except Crash (Except E V)} {calls : List (HostCall V E L)}
    (hl : Loaded f outcome calls) (ho : ∀ c ∈ calls, c.Orderly) :
    ∃ result, outcome = .ok result := by
  cases hl with
  | recorded _ => exact ⟨_, rfl⟩
  | unrecorded recorded =>
    have hok := recorded.answers hs
      fun c hc => ho c (List.mem_cons_of_mem _ hc)
    cases hok
  | crashed c =>
    obtain ⟨result, hresult⟩ := ho _ List.mem_cons_self
    cases hresult

/-- With steady settings a fetch comes to an answer. -/
theorem Exchange.answers {h : Host S V E L} {f : Fetch V E L}
    (hs : f.settings.Steady)
    {outcome : Except Crash (Except E V × Origin)}
    {calls : List (HostCall V E L)} (hex : Exchange h f outcome calls)
    (ho : ∀ c ∈ calls, c.Orderly) : ∃ answer, outcome = .ok answer := by
  rcases hex.found_or_loaded with
    ⟨_, result, _, _, rfl⟩ | ⟨loaded, more, hl, hmore, rfl⟩
  · exact ⟨_, rfl⟩
  · obtain ⟨result, rfl⟩ := hl.answers hs fun c hc => ho c (hmore hc)
    exact ⟨_, rfl⟩

/-! ## Fetches on tracing hosts -/

section Traced

variable {C : Type} {note : HostCall V E L → C} {h : Host S V E L}
  {f : Fetch V E L} {calls : List (HostCall V E L)}

theorem Fetch.offers_traced :
    f.offers (h.traced note) = f.offers h := by
  funext first
  rcases first with _ | _ | _ <;> simp [Fetch.offers]

theorem Exchange.of_traced
    {outcome : Except Crash (Except E V × Origin)}
    (hex : Exchange (h.traced note) f outcome calls) :
    Exchange h f outcome calls := by
  have hlock : (h.traced note).lock?.isSome = h.lock?.isSome :=
    Host.isSome_traced_lock?
  cases hex with
  | hit found =>
    rw [Fetch.offers_traced]
    exact .hit found
  | unlocked missed hl loaded =>
    rw [Fetch.offers_traced]
    rw [hl] at hlock
    exact .unlocked missed (Option.isSome_eq_false_iff.1 hlock.symm
      |> Option.isNone_iff_eq_none.1) loaded
  | refused missed hl loaded =>
    rw [Fetch.offers_traced]
    exact .refused missed (hlock ▸ hl) loaded
  | hitAgain missed hl found =>
    rw [Fetch.offers_traced]
    exact .hitAgain missed (hlock ▸ hl) found
  | locked missed hl missedAgain loaded =>
    rw [Fetch.offers_traced]
    exact .locked missed (hlock ▸ hl) missedAgain loaded

end Traced

/-- What a tracing host writes down of a fetch is its exchange. -/
theorem Layer.exchange_of_populate_traced (h : Host S V E L)
    (f : Fetch V E L) (s : S) :
    let run := (populate (h.traced id) f).settled ⟨s, []⟩
    Exchange h f run.1 run.2.notes
      ∧ ∀ c ∈ run.2.notes, ∃ s t, h.Does s (some c) t := by
  obtain ⟨hex, path⟩ := (makes_populate (h.traced id) f).notes s
  exact ⟨hex.of_traced, fun c hc => path.does_of_mem hc⟩

/-! ## Crashing fetches -/

section Crash

variable {α β : Type} {act : Act S α} {k : α → Act S β} {s t : S}

theorem Act.settled_bind_of_ok {a : α}
    (hact : act.settled s = (.ok a, t)) :
    Act.settled (act >>= k) s = (k a).settled t := by
  show (ExceptT.bindCont k (act.settled s).1) (act.settled s).2 = _
  rw [hact]
  rfl

theorem Act.settled_lift_bind {m : StateM S α} {a : α}
    (hm : m s = (a, t)) :
    Act.settled (ExceptT.lift m >>= k) s = (k a).settled t := by
  refine Act.settled_bind_of_ok ?_
  show (Except.ok (m s).1, (m s).2) = _
  rw [hm]

theorem Act.settled_bind_of_error {c : Crash}
    (hact : act.settled s = (.error c, t)) :
    Act.settled (act >>= k) s = (.error c, t) := by
  show (ExceptT.bindCont k (act.settled s).1) (act.settled s).2 = _
  rw [hact]
  rfl

end Crash

namespace Layer

variable {h : Host S V E L} {f : Fetch V E L} {s s₁ s₂ s₃ : S}

/-- Recording crashes if the random word selects no time. -/
theorem write_of_none {settings : CacheSettings} {key : String}
    {wb : WriteBack}
    (hnone : Jitter.sample? settings.ttl settings.jitterPercent
      (h.draw s).1 = none) :
    (write h settings key wb).settled s
      = (.error .noDuration, (h.draw s).2) := by
  refine (Act.settled_lift_bind (m := h.draw) rfl).trans ?_
  rw [hnone]
  rfl

/-- A fetch that finds nothing and needs no lock crashes if the random
word selects no time, whatever its loader answers. -/
theorem populate_of_none {result : Except E V} {wb : WriteBack}
    (hl : h.lock? = none) (hlookup : lookup h f s = (none, s₁))
    (hload : (h.load f.loader).settled s₁ = (.ok result, s₂))
    (hwb : writeBackOf h f result s₂ = (wb, s₃))
    (hnone : Jitter.sample? f.settings.ttl f.settings.jitterPercent
      (h.draw s₃).1 = none) :
    (populate h f).settled s = (.error .noDuration, (h.draw s₃).2) := by
  have hacquire : acquire h f s₁ = (false, s₁) := by
    rw [acquire, hl]
    rfl
  have hrecord : (record h f result).settled s₂
      = (.error .noDuration, (h.draw s₃).2) := by
    refine (Act.settled_lift_bind hwb).trans ?_
    exact write_of_none hnone
  refine (Act.settled_lift_bind hlookup).trans ?_
  refine (Act.settled_lift_bind hacquire).trans ?_
  refine Act.settled_bind_of_error ?_
  refine (Act.settled_bind_of_ok hload).trans ?_
  exact Act.settled_bind_of_error hrecord

end Layer

/-- The host of a layer whose cache is empty and which has neither a
locker nor an executor.  Its random word is always the same. -/
def Host.bare (word : Nat) : Host Unit Unit Unit Unit where
  get _ := return .ok none
  set _ _ _ := return .ok ()
  setError _ _ _ := return .ok true
  delete _ := return .ok ()
  lock? := none
  release _ := return
  submit? := none
  load _ := return .ok ()
  pauses _ := 0
  draw := return word
  report _ := return

/-- The codec of a unit that is never stored. -/
def Codec.unit : Codec Unit Unit :=
  ⟨fun _ => .error "", fun _ => none, fun _ => none, fun _ => ()⟩

/-- A fetch of a unit. -/
def Fetch.unit (settings : CacheSettings) : Fetch Unit Unit Unit :=
  ⟨settings, "", .unit, (), none⟩

/-! ## The result -/

/-- A fetch with steady settings follows the protocol to an answer: the
calls that are written down are an exchange that ends with the answer.
With other settings some fetch does not. -/
theorem Layer.steady_iff_exchange (settings : CacheSettings) :
    settings.Steady ↔
      ∀ (S V E L : Type) (h : Host S V E L) (f : Fetch V E L) (s : S),
        h.Answers → f.settings = settings →
        ∃ answer t,
          (populate (h.traced id) f).settled ⟨s, []⟩ = (.ok answer, t)
            ∧ Exchange h f (.ok answer) t.notes := by
  constructor
  · intro hs S V E L h f s ha heq
    subst heq
    obtain ⟨hex, hdone⟩ := exchange_of_populate_traced h f s
    obtain ⟨answer, hanswer⟩ := hex.answers hs (by
      intro c hc
      obtain ⟨_, _, does⟩ := hdone c hc
      exact ha.orderly does)
    refine ⟨answer, _, Prod.ext hanswer rfl, ?_⟩
    rw [← hanswer]
    exact hex
  · intro hall word hlt
    have ha : (Host.bare word).Answers :=
      ⟨fun _ _ => ⟨.ok (), rfl⟩, fun _ => hlt⟩
    obtain ⟨answer, t, hrun, _⟩ :=
      hall Unit Unit Unit Unit (Host.bare word) (.unit settings) () ha rfl
    cases hs : Jitter.sample? settings.ttl settings.jitterPercent word with
    | some ttl => rfl
    | none =>
      have hcrash := populate_of_none (h := (Host.bare word).traced id)
        (f := .unit settings) (s := ⟨(), []⟩) rfl rfl rfl rfl hs
      rw [hrun] at hcrash
      cases hcrash

/-! ## Settings that are not steady -/

/-- Settings for entries that are to live as long as a duration of whole
seconds can, give or take a jitter that rounds away. -/
def CacheSettings.endless : CacheSettings where
  method := "C.m"
  ttl := ⟨(UInt64.size - 1) * 1000000000, by decide⟩
  jitterPercent := Number.Format.double.round false 1 (Nat.pow 10 15)
  refreshThresholdPercent := Number.Binary.zero

/-- A fetch with the endless settings, whose loader answers one. -/
def Fetch.endless : Fetch Nat String (Script Nat String) where
  settings := .endless
  key := "k"
  codec := ⟨fun n => .ok (.ofNat n), fun _ => none, fun _ => none,
    fun e => e.message⟩
  loader := ⟨0, .ok 1, [], 0⟩
  evicts := none

/-- The fetch crashes after its loader has run, before the value is
stored.  The seconds of the endless settings round to a number that no
duration has. -/
theorem Layer.populate_endless :
    let host : Host (World Nat String (Script Nat String) (List Nat))
        Nat String (Script Nat String) :=
      Wiring.host ⟨.none, .none⟩ Script.run Script.pauses
    let run := (populate host Fetch.endless).settled (World.initial [])
    run.1 = .error .noDuration ∧ run.2.base = [0]
      ∧ run.2.store.counts = ⟨1, 0, 0, 0⟩ := by
  intro host run
  have hcrash : run.1.toOption.isNone ∧ run.2.base = [0]
      ∧ run.2.store.counts = ⟨1, 0, 0, 0⟩ := by
    decide +kernel
  refine ⟨?_, hcrash.2⟩
  cases hout : run.1 with
  | error c => rfl
  | ok answer =>
    rw [hout] at hcrash
    cases hcrash.1

end PolicyWeave
