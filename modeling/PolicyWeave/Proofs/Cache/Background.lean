import PolicyWeave.Cache.Script
import PolicyWeave.Proofs.Cache.Contents
import PolicyWeave.Proofs.Cache.Matching

/-!
# Refreshes in the background

A refresh cannot be seen by the fetch that hands it on, and does no harm
to the entry it is for, whenever it is run.

There are three groups.

* `Refreshed` is what a refresh makes of the contents once its loader has
  answered: it puts the value that was loaded under its key, or it leaves
  all as it is.
* `Refresh.Safe` is what is asked of a refresh that is run to its end.
  `RefreshExchange.safe` says that it holds of every conversation that a
  refresh may have with a host that has a cache behind it.
* `Layer.unseen_and_safe` is the result.
-/

namespace PolicyWeave

variable {S V E L : Type}

/-! ## What a refresh records -/

/-- What a refresh whose loader has answered makes of the contents.  A
value that was stored is the one that was loaded, and it has a fresh time
to live that a random word has selected. -/
inductive Refreshed (r : Refresh V E L)
    (answer : Except Crash (Except E V)) (calls : List (HostCall V E L))
    (before : Contents) : Contents → Prop where
  | stored {value : V} {w : Json} {word : Nat} {ttl : Duration}
      (loaded : answer = .ok (.ok value))
      (encoded : r.codec.encode value = .ok w)
      (drawn : .draw word ∈ calls)
      (sampled : Jitter.sample? r.settings.ttl r.settings.jitterPercent word
        = some ttl)
      (set : .set r.key w ttl (.ok ()) ∈ calls) :
    Refreshed r answer calls before
      (Function.update before r.key (some (.fresh (.value w) ttl)))
  | kept (unstored : ∀ c ∈ calls, c.stored? = none) :
    Refreshed r answer calls before before

/-- Calls that store nothing may be added. -/
theorem Refreshed.mono {r : Refresh V E L}
    {answer : Except Crash (Except E V)}
    {calls more : List (HostCall V E L)} {before after : Contents}
    (hr : Refreshed r answer calls before after) (hsub : calls ⊆ more)
    (hmore : ∀ c ∈ more, c ∈ calls ∨ c.stored? = none) :
    Refreshed r answer more before after := by
  cases hr with
  | stored loaded encoded drawn sampled set =>
    exact .stored loaded encoded (hsub drawn) sampled (hsub set)
  | kept unstored =>
    exact .kept fun c hc => (hmore c hc).elim (unstored c) id

/-- Calls that neither put nor remove anything. -/
theorem Refreshed.of_idle {r : Refresh V E L}
    {answer : Except Crash (Except E V)} {calls : List (HostCall V E L)}
    (hc : ∀ c ∈ calls, c.entered? = none ∧ c.removed = [])
    (contents : Contents) :
    Refreshed r answer calls contents (writesOf calls contents) := by
  rw [writesOf_of_idle hc]
  refine .kept fun c hmem => ?_
  rw [HostCall.stored?_eq, (hc c hmem).1]
  rfl

/-- A refresh records the value that was loaded, or nothing. -/
theorem Codec.freshen_cases (codec : Codec V E) (result : Except E V) :
    codec.freshen result = .skip
      ∨ ∃ value w, result = .ok value ∧ codec.encode value = .ok w
        ∧ codec.freshen result = .value w := by
  cases result with
  | error e => exact .inl rfl
  | ok value =>
    show codec.writeBack (.ok value) = _ ∨ _
    cases hw : codec.encode value with
    | error reason =>
      left
      simp only [Codec.writeBack, hw]
    | ok w =>
      refine .inr ⟨value, w, rfl, hw, ?_⟩
      simp only [Codec.freshen, Codec.writeBack, hw]

section

variable {r : Refresh V E L} {result : Except E V}
  {outcome : Except Crash Unit} {calls : List (HostCall V E L)}

/-- What is recorded for a refresh is written as its calls say. -/
theorem Recorded.refreshed
    (hr : Recorded r.settings r.key (r.codec.freshen result) outcome calls)
    (contents : Contents) :
    Refreshed r (.ok result) calls contents (writesOf calls contents) := by
  cases hr with
  | noDuration _ =>
    exact .of_idle (List.forall_mem_singleton.2 ⟨rfl, rfl⟩) contents
  | @written word ttl more sampled hw =>
    rcases r.codec.freshen_cases result with
      hskip | ⟨value, w, hresult, hencode, hvalue⟩
    · rw [hskip] at hw
      cases hw
      exact .of_idle (List.forall_mem_singleton.2 ⟨rfl, rfl⟩) contents
    · rw [hvalue] at hw
      cases hw with
      | value v answer =>
        cases answer with
        | error e =>
          exact .of_idle (List.forall_mem_cons.2 ⟨⟨rfl, rfl⟩,
            List.forall_mem_singleton.2 ⟨rfl, rfl⟩⟩) contents
        | ok _ =>
          rw [writesOf_cons, HostCall.writes_of_idle rfl rfl]
          exact .stored (congrArg _ hresult) hencode List.mem_cons_self
            sampled (List.mem_cons_of_mem _ List.mem_cons_self)

/-- A refresh never records a failure. -/
theorem Recorded.setError_notMem
    (hr : Recorded r.settings r.key (r.codec.freshen result) outcome calls)
    (key : String) (e : CachedError) (ttl : Duration)
    (answer : Except BackendError Bool) :
    .setError key e ttl answer ∉ calls := by
  cases hr with
  | noDuration _ => simp
  | written _ hw =>
    rcases r.codec.freshen_cases result with hskip | ⟨_, w, _, _, hvalue⟩
    · rw [hskip] at hw
      cases hw
      simp
    · rw [hvalue] at hw
      cases hw
      simp

end

/-! ## Refreshes run to their end -/

/-- What is asked of a refresh that is run to its end, from the state it
was run in, its calls, and the state it left.

Its loader runs at most once.  Without a locker it asks for no lock.
With one it ends at once if its key is refused, and otherwise it gives
its guard back once, when it ends.  It never records a failure.  If its
loader was not run then the contents are as before.  If it was run, all
that is done to the contents behind it is to put the value that was
loaded under the key. -/
structure Refresh.Safe (r : Refresh V E L) (h : Host S V E L)
    (content : S → Contents) (s : S) (calls : List (HostCall V E L))
    (t : S) : Prop where
  once : (loads calls).length ≤ 1
  guard : h.lock? = none ∧ Lockless calls
    ∨ calls = [.lock r.key false]
    ∨ ∃ more, Lockless more
      ∧ calls = .lock r.key true :: (more ++ [.release r.key])
  unfailed : ∀ key e ttl answer, .setError key e ttl answer ∉ calls
  contents : (loads calls = [] ∧ content t = content s)
    ∨ ∃ answer u v, loads calls = [answer] ∧ content u = content s
      ∧ (h.load r.loader).settled u = (answer, v)
      ∧ Refreshed r answer calls (content v) (content t)

section

variable {h : Host S V E L} {content : S → Contents} {r : Refresh V E L}
  {outcome : Except Crash Unit} {calls : List (HostCall V E L)} {s t : S}

/-- Loading for a refresh and recording what was loaded makes no call to
the locker. -/
theorem Reloaded.lockless (hr : Reloaded r outcome calls) :
    Lockless calls := by
  cases hr with
  | recorded recorded => exact .cons rfl recorded.lockless
  | crashed c => exact .cons rfl lockless_nil

theorem Reloaded.setError_notMem (hr : Reloaded r outcome calls)
    (key : String) (e : CachedError) (ttl : Duration)
    (answer : Except BackendError Bool) :
    .setError key e ttl answer ∉ calls := by
  cases hr with
  | recorded recorded =>
    intro hmem
    rcases List.mem_cons.1 hmem with heq | hmem
    · cases heq
    · exact recorded.setError_notMem key e ttl answer hmem
  | crashed c =>
    intro hmem
    cases List.mem_singleton.1 hmem

/-- Loading for a refresh, on a host with a cache behind it. -/
theorem Reloaded.contents (hb : h.Backed content)
    (hr : Reloaded r outcome calls) (path : h.Trail s calls t) :
    ∃ answer u v, loads calls = [answer] ∧ content u = content s
      ∧ (h.load r.loader).settled u = (answer, v)
      ∧ Refreshed r answer calls (content v) (content t) := by
  have hsplit {answer : Except Crash (Except E V)}
      {more : List (HostCall V E L)} (hloads : loads more = [])
      (hcalls : calls = .load r.loader answer :: more) :
      ∃ u v, content u = content s
        ∧ (h.load r.loader).settled u = (answer, v)
        ∧ content t = writesOf more (content v) := by
    rw [hcalls, ← List.singleton_append] at path
    obtain ⟨mid, hload, hmore⟩ := path.split
    obtain ⟨u, v, hbefore, does, hafter⟩ := hload.of_singleton
    have hu : content u = content s := hb.of_trail hbefore (.inl rfl)
    have hmid : content mid = content v := hb.of_trail hafter (.inl rfl)
    refine ⟨u, v, hu, does.of_load, ?_⟩
    rw [hb.of_trail hmore (.inl hloads), hmid]
  cases hr with
  | @recorded result _ more hrecorded =>
    obtain ⟨u, v, hu, hload, ht⟩ := hsplit hrecorded.idle.loads_eq rfl
    refine ⟨.ok result, u, v, ?_, hu, hload, ?_⟩
    · exact congrArg (.ok result :: ·) hrecorded.idle.loads_eq
    · rw [ht]
      refine (hrecorded.refreshed (content v)).mono
        (List.subset_cons_self _ _) ?_
      intro c hc
      rcases List.mem_cons.1 hc with rfl | hc
      · exact .inr rfl
      · exact .inl hc
  | crashed c =>
    obtain ⟨u, v, hu, hload, ht⟩ := hsplit rfl rfl
    refine ⟨.error c, u, v, rfl, hu, hload, ?_⟩
    rw [ht]
    exact .kept (List.forall_mem_singleton.2 rfl)

/-- A path of one call to the locker leaves the contents alone. -/
theorem Host.Backed.of_locking (hb : h.Backed content)
    {c : HostCall V E L} (hc : c.isLocking = true)
    (path : h.Trail s [c] t) : content t = content s := by
  have hidle : loads [c] = [] ∧ c.entered? = none ∧ c.removed = [] := by
    cases c <;> first | exact ⟨rfl, rfl, rfl⟩ | cases hc
  rw [hb.of_trail path (.inl hidle.1)]
  exact HostCall.writes_of_idle hidle.2.1 hidle.2.2

/-- What a tracing host writes down of a refresh is its conversation. -/
theorem RefreshExchange.of_traced {C : Type} {note : HostCall V E L → C}
    (hex : RefreshExchange (h.traced note) r outcome calls) :
    RefreshExchange h r outcome calls := by
  have hlock : (h.traced note).lock?.isSome = h.lock?.isSome :=
    Host.isSome_traced_lock?
  cases hex with
  | unlocked hl hr =>
    rw [hl] at hlock
    exact .unlocked (Option.not_isSome_iff_eq_none.1
      (Bool.eq_false_iff.1 hlock.symm)) hr
  | refused hl => exact .refused (hlock ▸ hl)
  | locked hl hr => exact .locked (hlock ▸ hl) hr

/-- Whatever conversation a refresh has with a host that has a cache
behind it, the refresh is safe. -/
theorem RefreshExchange.safe (hb : h.Backed content)
    (hex : RefreshExchange h r outcome calls) (path : h.Trail s calls t) :
    r.Safe h content s calls t := by
  cases hex with
  | unlocked hl hr =>
    obtain ⟨answer, u, v, hloads, hrest⟩ := hr.contents hb path
    refine ⟨?_, .inl ⟨hl, hr.lockless⟩, hr.setError_notMem,
      .inr ⟨answer, u, v, hloads, hrest⟩⟩
    rw [hloads]
    exact Nat.le_refl 1
  | refused _ =>
    refine ⟨Nat.zero_le _, .inr (.inl rfl), ?_, .inl ⟨rfl, ?_⟩⟩
    · intro key e ttl answer hmem
      cases List.mem_singleton.1 hmem
    · exact hb.of_locking rfl path
  | @locked _ more hl hr =>
    rw [List.cons_append, ← List.singleton_append] at path
    obtain ⟨u₁, hlock, hrest⟩ := path.split
    obtain ⟨u₂, hreload, hrelease⟩ := hrest.split
    obtain ⟨answer, u, v, hloads, hu, hload, hrefreshed⟩ :=
      hr.contents hb hreload
    have hu₁ : content u₁ = content s := hb.of_locking rfl hlock
    have ht : content t = content u₂ := hb.of_locking rfl hrelease
    have hall : loads (.lock r.key true :: more ++ [.release r.key])
        = [answer] := by
      rw [loads_append, ← List.singleton_append, loads_append, hloads]
      rfl
    refine ⟨?_, .inr (.inr ⟨more, hr.lockless, rfl⟩), ?_,
      .inr ⟨answer, u, v, hall, hu.trans hu₁, hload, ?_⟩⟩
    · rw [hall]
      exact Nat.le_refl 1
    · intro key e ttl answer hmem
      have hnot := hr.setError_notMem key e ttl answer
      simp [hnot] at hmem
    · rw [ht]
      refine hrefreshed.mono (fun c hc => by simp [hc]) ?_
      intro c hc
      rcases List.mem_append.1 hc with hc | hc
      · rcases List.mem_cons.1 hc with rfl | hc
        · exact .inr rfl
        · exact .inl hc
      · rw [List.mem_singleton.1 hc]
        exact .inr rfl

end

/-! ## The result -/

/-- Refreshes in the background are unseen and safe.

Where handing on cannot be seen, a fetch comes to the same outcome and
makes the same calls with the same answers with an executor as without
one, but for the calls that hand a refresh on.

On a host with a cache behind it every refresh is safe, whatever state it
is run in. -/
theorem Layer.unseen_and_safe (h : Host S V E L) :
    (∀ R : S → S → Prop, h.Unseen R →
      ∀ (f : Fetch V E L) (s s' : S), R s s' →
        let run := (fetch (h.traced id) f).settled ⟨s, []⟩
        let bare := (fetch (h.unhanded.traced id) f).settled ⟨s', []⟩
        run.1 = bare.1 ∧ R run.2.state bare.2.state
          ∧ bare.2.notes = unsubmitted run.2.notes)
      ∧ ∀ content : S → Contents, h.Backed content →
        ∀ (r : Refresh V E L) (s : S),
          let run := (refresh (h.traced id) r).settled ⟨s, []⟩
          r.Safe h content s run.2.notes run.2.state := by
  constructor
  · intro R hu f s s' hs
    exact fetch_unhanded hu f hs
  · intro content hb r s
    obtain ⟨hex, path⟩ := (makes_refresh (h.traced id) r).notes s
    exact hex.of_traced.safe hb path

/-! ## An entry near its end -/

/-- A script answers by what has run before it. -/
theorem Script.matched_run (script : Script V E) :
    Matched World.Alike script.run.settled script.run.settled := by
  intro w w' hw
  have hanswer : script.answer (w.base.count script.number)
      = script.answer (w'.base.count script.number) := by
    rw [hw.base]
  exact ⟨congrArg Except.ok hanswer, hw.store, hw.locks, hw.words,
    congrArg (· ++ [script.number]) hw.base⟩

/-- A world whose store holds a value under one key, which has one of its
hundred milliseconds left. -/
def World.aged : World Nat String (Script Nat String) (List Nat) :=
  { World.initial [] with
    store := Store.empty.put "k"
      ⟨.value (.ofNat 1), .ofMilliseconds 100, .ofMilliseconds 1⟩ }

/-- A fetch of that key that refreshes what has less than half of its time
left. -/
def Fetch.halfway : Fetch Nat String (Script Nat String) where
  settings :=
    ⟨"C.m", .ofMilliseconds 100, Number.Binary.zero,
      Number.Format.double.ofNat 50⟩
  key := "k"
  codec := ⟨fun n => .ok (.ofNat n), fun _ => some 1, fun _ => none,
    fun e => e.message⟩
  loader := ⟨0, .ok 2, [], 0⟩
  evicts := none

/-- The fetch hands one refresh on, which is safe after it. -/
theorem Layer.unseen_and_safe_halfway :
    let host : Host (World Nat String (Script Nat String) (List Nat))
        Nat String (Script Nat String) :=
      Wiring.host ⟨.table, .queued⟩ Script.run Script.pauses
    let f := Fetch.halfway
    let r : Refresh Nat String (Script Nat String) :=
      ⟨f.settings, f.key, f.codec, f.loader⟩
    let next := ((fetch host f).settled World.aged).2
    host.Unseen World.Alike ∧ World.Alike World.aged World.aged
      ∧ host.Backed World.contents ∧ next.submitted = 1
      ∧ (let run := (fetch (host.traced id) f).settled ⟨World.aged, []⟩
        let bare := (fetch (host.unhanded.traced id) f).settled
          ⟨World.aged, []⟩
        run.1 = bare.1 ∧ World.Alike run.2.state bare.2.state
          ∧ bare.2.notes = unsubmitted run.2.notes)
      ∧ (let run := (refresh (host.traced id) r).settled ⟨next, []⟩
        r.Safe host World.contents next run.2.notes run.2.state) := by
  intro host f r next
  have hunseen : host.Unseen World.Alike :=
    Wiring.unseen ⟨.table, .queued⟩ _ _ Script.matched_run
  have hbacked : host.Backed World.contents :=
    Wiring.backed ⟨.table, .queued⟩ trivial _ _
  have halike : World.Alike World.aged World.aged := ⟨rfl, rfl, rfl, rfl⟩
  have hsubmitted : next.submitted = 1 := by
    decide +kernel
  have hsame := (unseen_and_safe host).1 World.Alike hunseen f World.aged
    World.aged halike
  have hsafe := (unseen_and_safe host).2 World.contents hbacked r next
  exact ⟨hunseen, halike, hbacked, hsubmitted, hsame, hsafe⟩

end PolicyWeave
