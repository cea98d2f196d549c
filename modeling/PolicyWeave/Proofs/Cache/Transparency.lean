import Mathlib.Data.List.Forall2
import PolicyWeave.Cache.Operation
import PolicyWeave.Proofs.Cache.Answers
import PolicyWeave.Proofs.Cache.Meaning

/-!
# Transparent caches

Where all loaders of a key have one answer, every fetch of the key comes
to that answer, whatever is done to the cache in between.

There are four groups.

* `Meaning.Holds` is the invariant of a world: its entries stand for
  their keys, and the refreshes that are queued carry the answers of
  theirs.
* `Meaning.Keeps` says of steps that they keep the invariant and what
  they then answer.  Steps whose calls all ask for what stands for a key
  keep it.
* One lemma for each operation of a run.
* `Meaning.Run` is a run of operations.  `steady_iff_answers` is the
  result: the answers are right in every run exactly if the settings are
  steady.  With the endless settings they are not.
-/

namespace PolicyWeave

variable {V E L X : Type}

/-- The lockers that store nothing. -/
def Locker.Plain : Locker → Prop
  | .none => True
  | .table => True
  | .populating _ => False

namespace Meaning

variable (m : Meaning V E) (load : L → Act (World V E L X) (Except E V))

/-! ## The invariant -/

/-- A world in which a layer with these answers may be at work. -/
structure Holds (w : World V E L X) : Prop where
  fills : m.Fills w.store
  serves : ∀ j ∈ w.queue,
    m.Serves load j.refresh.key j.refresh.codec j.refresh.loader
  carries : ∀ j ∈ w.queue, Carries (m.answer j.refresh.key) j.stage
  words : ∀ word ∈ w.words, word < UInt64.size

variable {m load}

/-- What a layer works on counts alone. -/
theorem Holds.congr {w w' : World V E L X} (hw : m.Holds load w)
    (hstore : w'.store = w.store) (hqueue : w'.queue = w.queue)
    (hwords : w'.words = w.words) : m.Holds load w' where
  fills := hstore ▸ hw.fills
  serves := hqueue ▸ hw.serves
  carries := hqueue ▸ hw.carries
  words := hwords ▸ hw.words

/-- A store whose entries stand for their keys may take the place of
another one. -/
theorem Holds.withStore {w : World V E L X} (hw : m.Holds load w)
    {store : Store} (hs : m.Fills store) :
    m.Holds load { w with store } where
  fills := hs
  serves := hw.serves
  carries := hw.carries
  words := hw.words

/-- On the lock table, or on nothing at all. -/
theorem Holds.withLocks {w : World V E L X} (hw : m.Holds load w)
    (locks : LockTable) : m.Holds load { w with locks } :=
  hw.congr rfl rfl rfl

section Does

variable {c : Wiring} {pauses : L → Nat} {w w' : World V E L X}

/-- An operation that asks for what stands for a key keeps the invariant,
and its answer stands for a key as well. -/
theorem Holds.of_does (hplain : c.locker.Plain) (hw : m.Holds load w)
    {call : Option (HostCall V E L)}
    (does : (c.host load pauses).Does w call w')
    (hasks : ∀ x, call = some x → m.Asks load x) :
    m.Holds load w' ∧ ∀ x, call = some x → m.Told load x := by
  cases does with
  | get key =>
    refine ⟨hw.withStore hw.fills.get, ?_⟩
    intro x hx
    cases hx
    intro e he
    have hget : (Store.get key w.store).1 = .ok (some e) := he
    unfold Store.get at hget
    dsimp only at hget
    split at hget
    · cases hget
    · exact hw.fills key e (Except.ok.inj hget)
  | set key v ttl =>
    refine ⟨hw.withStore (hw.fills.set (hasks _ rfl)), ?_⟩
    intro x hx
    cases hx
    exact trivial
  | setError key e ttl =>
    refine ⟨hw.withStore (hw.fills.setError (hasks _ rfl)), ?_⟩
    intro x hx
    cases hx
    exact trivial
  | delete keys =>
    refine ⟨hw.withStore hw.fills.delete, ?_⟩
    intro x hx
    cases hx
    exact trivial
  | lock hl key =>
    refine ⟨?_, ?_⟩
    · cases hc : c.locker with
      | none =>
        rw [Wiring.host, hc] at hl
        cases hl
      | table =>
        rw [Wiring.host, hc] at hl
        cases hl
        exact hw.withLocks _
      | populating v =>
        rw [hc] at hplain
        cases hplain
    · intro x hx
      cases hx
      exact trivial
  | release key =>
    refine ⟨hw.withLocks _, ?_⟩
    intro x hx
    cases hx
    exact trivial
  | submit hs r =>
    refine ⟨?_, ?_⟩
    · have hsubmit := hs
      simp only [Wiring.host] at hsubmit
      split at hsubmit
      · cases hsubmit
      · cases hsubmit
        have hserves : m.Serves load r.key r.codec r.loader := hasks _ rfl
        refine ⟨hw.fills, ?_, ?_, hw.words⟩
        · exact List.forall_mem_append.2
            ⟨hw.serves, List.forall_mem_singleton.2 hserves⟩
        · exact List.forall_mem_append.2
            ⟨hw.carries, List.forall_mem_singleton.2 trivial⟩
    · intro x hx
      cases hx
      exact trivial
  | load loader =>
    obtain ⟨key, hloads⟩ := hasks _ rfl
    obtain ⟨_, hstore, hqueue, hwords⟩ := hloads w
    refine ⟨hw.congr hstore hqueue hwords, ?_⟩
    intro x hx
    cases hx
    intro other hother
    exact (hother w).1
  | draw =>
    cases hwords : w.words with
    | nil =>
      have hdraw : World.draw w = (0, w) := by
        rw [World.draw, hwords]
      refine ⟨?_, ?_⟩
      · rw [show (c.host load pauses).draw w = (0, w) from hdraw]
        exact hw
      · intro x hx
        cases hx
        rw [show (c.host load pauses).draw w = (0, w) from hdraw]
        show 0 < UInt64.size
        decide
    | cons word words =>
      have hdraw : World.draw w = (word, { w with words }) := by
        rw [World.draw, hwords]
      have hall := hw.words
      rw [hwords] at hall
      have hsplit := List.forall_mem_cons.1 hall
      refine ⟨?_, ?_⟩
      · rw [show (c.host load pauses).draw w = _ from hdraw]
        exact ⟨hw.fills, hw.serves, hw.carries, hsplit.2⟩
      · intro x hx
        cases hx
        rw [show (c.host load pauses).draw w = _ from hdraw]
        exact hsplit.1
  | report e =>
    refine ⟨hw.congr rfl rfl rfl, ?_⟩
    intro x hx
    cases hx

/-- A path that asks for what stands for a key keeps the invariant, and
what it is told stands for a key as well. -/
theorem Holds.of_trail (hplain : c.locker.Plain) (hw : m.Holds load w)
    {calls : List (HostCall V E L)}
    (path : (c.host load pauses).Trail w calls w')
    (hasks : ∀ x ∈ calls, m.Asks load x) :
    m.Holds load w' ∧ ∀ x ∈ calls, m.Told load x := by
  induction path with
  | nil w => exact ⟨hw, List.forall_mem_nil _⟩
  | call first _ ih =>
    have hsplit := List.forall_mem_cons.1 hasks
    obtain ⟨hnext, htold⟩ := hw.of_does hplain first (by
      intro x hx
      rw [← Option.some.inj hx]
      exact hsplit.1)
    obtain ⟨hlast, hrest⟩ := ih hnext hsplit.2
    exact ⟨hlast, List.forall_mem_cons.2 ⟨htold _ rfl, hrest⟩⟩
  | quiet first _ ih =>
    have hnext := hw.of_does hplain first (by
      intro x hx
      cases hx)
    exact ih hnext.1 hasks

/-- What a loader answers does not depend on the invariant. -/
theorem loadsTold_of_trail {calls : List (HostCall V E L)}
    (path : (c.host load pauses).Trail w calls w') :
    m.LoadsTold load calls := by
  intro loader answer hmem key hloads
  obtain ⟨s, t, does⟩ := path.does_of_mem hmem
  generalize hcall : some (HostCall.load loader answer) = call at does
  cases does <;> cases hcall
  exact (hloads s).1

/-- A call that asks for what stands for a key, and is told what does, is
answered in order. -/
theorem orderly_of_told {x : HostCall V E L} (hasks : m.Asks load x)
    (htold : m.Told load x) : x.Orderly := by
  cases x with
  | load loader answer =>
    obtain ⟨key, hloads⟩ := hasks
    exact ⟨_, htold key hloads⟩
  | draw word => exact htold
  | _ => exact trivial

end Does

/-! ## Steps that keep the invariant -/

variable (m load) in
/-- Steps that keep the invariant and answer a value of which `Q`
holds. -/
def Keeps {α : Type} (act : StateM (World V E L X) α) (Q : α → Prop) :
    Prop :=
  ∀ w, m.Holds load w → m.Holds load (act w).2 ∧ Q (act w).1

namespace Keeps

variable {α β : Type}

theorem imp {act : StateM (World V E L X) α} {P Q : α → Prop}
    (hact : m.Keeps load act P) (hPQ : ∀ a, P a → Q a) :
    m.Keeps load act Q := by
  intro w hw
  have h := hact w hw
  exact ⟨h.1, hPQ _ h.2⟩

theorem pure {a : α} {Q : α → Prop} (hQ : Q a) :
    m.Keeps load (Pure.pure a) Q :=
  fun _ hw => ⟨hw, hQ⟩

theorem bind {act : StateM (World V E L X) α}
    {k : α → StateM (World V E L X) β} {P : α → Prop} {Q : β → Prop}
    (hact : m.Keeps load act P)
    (hk : ∀ a, P a → m.Keeps load (k a) Q) :
    m.Keeps load (act >>= k) Q := by
  intro w hw
  have h := hact w hw
  exact hk _ h.2 _ h.1

/-- Steps that may crash, after steps that may crash. -/
theorem actBind {act : Act (World V E L X) α}
    {k : α → Act (World V E L X) β} {P : Except Crash α → Prop}
    {Q : Except Crash β → Prop} (hact : m.Keeps load act.settled P)
    (hcrash : ∀ c, P (.error c) → Q (.error c))
    (hk : ∀ a, P (.ok a) → m.Keeps load (k a).settled Q) :
    m.Keeps load (act >>= k).settled Q := by
  refine Keeps.bind (k := ExceptT.bindCont k) hact ?_
  intro outcome hP
  cases outcome with
  | error c => exact Keeps.pure (hcrash c hP)
  | ok a => exact hk a hP

/-- Steps that may crash, followed by a plain function. -/
theorem actMap {act : Act (World V E L X) α} {g : α → β}
    {Q : Except Crash β → Prop}
    (hact : m.Keeps load act.settled fun outcome => Q (outcome.map g)) :
    m.Keeps load (Act.settled (g <$> act)) Q := by
  refine Keeps.actBind (P := fun outcome => Q (outcome.map g)) hact ?_ ?_
  · intro c hQ
    exact hQ
  · intro a hQ
    exact Keeps.pure hQ

/-- Steps that never crash, followed by a plain function. -/
theorem safeMap {act : StateM (World V E L X) α} {g : α → β}
    {Q : Except Crash β → Prop}
    (hact : m.Keeps load act fun a => Q (.ok (g a))) :
    m.Keeps load (Act.settled (g <$> Act.safe act)) Q :=
  hact

/-- Steps whose calls all ask for what stands for a key. -/
theorem of_makes {c : Wiring} {pauses : L → Nat}
    (hplain : c.locker.Plain) {act : StateM (World V E L X) α}
    {P : α → List (HostCall V E L) → Prop} {Q : α → Prop}
    (hact : Makes (c.host load pauses) act P)
    (hP : ∀ a calls, P a calls → m.LoadsTold load calls →
      (∀ x ∈ calls, m.Asks load x)
        ∧ ((∀ x ∈ calls, m.Told load x) → Q a)) :
    m.Keeps load act Q := by
  intro w hw
  obtain ⟨calls, path, h⟩ := hact w
  obtain ⟨hasks, hQ⟩ := hP _ _ h (loadsTold_of_trail path)
  obtain ⟨hlast, htold⟩ := hw.of_trail hplain path hasks
  exact ⟨hlast, hQ htold⟩

end Keeps

/-! ## Operations -/

section Operations

variable {c : Wiring} {pauses : L → Nat} (hplain : c.locker.Plain)

include hplain

/-- A fetch comes to the answer of its key, or it crashes with settings
that are not steady. -/
theorem keeps_fetch {f : Fetch V E L}
    (hf : m.Serves load f.key f.codec f.loader) :
    m.Keeps load (Layer.fetch (c.host load pauses) f).settled
      fun outcome => outcome = .ok (m.answer f.key)
        ∨ ¬ f.settings.Steady := by
  refine Keeps.of_makes hplain (Layer.makes_fetch _ f) ?_
  intro outcome calls hfetch hloads
  obtain ⟨populated, first, last, hex, hevicted, rfl, rfl⟩ := hfetch
  have hasks : ∀ x ∈ first, m.Asks load x := by
    refine asks_of_exchange hf hex ?_
    intro loader answer hmem
    exact hloads loader answer (List.mem_append_left _ hmem)
  refine ⟨List.forall_mem_append.2
    ⟨hasks, asks_of_deleted hevicted.deleted⟩, ?_⟩
  intro htold
  have hfirst : ∀ x ∈ first, m.Told load x :=
    (List.forall_mem_append.1 htold).1
  by_cases hsteady : f.settings.Steady
  · obtain ⟨⟨result, origin⟩, rfl⟩ := hex.answers hsteady
      fun x hx => orderly_of_told (hasks x hx) (hfirst x hx)
    left
    rw [← eq_answer_of_exchange hf hex hfirst]
    rfl
  · exact .inr hsteady

/-- A refresh keeps the invariant. -/
theorem keeps_refresh {r : Refresh V E L}
    (hr : m.Serves load r.key r.codec r.loader) :
    m.Keeps load (Layer.refresh (c.host load pauses) r).settled
      fun _ => True := by
  refine Keeps.of_makes hplain (Layer.makes_refresh _ r) ?_
  intro outcome calls hex hloads
  exact ⟨asks_of_refreshExchange hr hex hloads, fun _ => trivial⟩

/-- A step of a refresh keeps the invariant and the answer it carries. -/
theorem keeps_stepRefresh {r : Refresh V E L}
    (hr : m.Serves load r.key r.codec r.loader)
    {stage : RefreshStage V E} (hs : Carries (m.answer r.key) stage) :
    m.Keeps load (Layer.stepRefresh (c.host load pauses) r stage)
      (Carries (m.answer r.key)) := by
  refine Keeps.of_makes hplain (Layer.makes_stepRefresh _ r stage) ?_
  intro next calls hmove hloads
  obtain ⟨hasks, hnext⟩ := asks_of_refreshMove hr hmove hs hloads
  exact ⟨hasks, fun _ => hnext⟩

theorem keeps_advanceRefresh {r : Refresh V E L}
    (hr : m.Serves load r.key r.codec r.loader) :
    ∀ (fuel : Nat) (stage : RefreshStage V E),
      Carries (m.answer r.key) stage →
      m.Keeps load
        (Layer.advanceRefresh (c.host load pauses) r fuel stage)
        (Carries (m.answer r.key)) := by
  intro fuel
  induction fuel with
  | zero =>
    intro stage hs
    exact Keeps.pure hs
  | succ fuel ih =>
    intro stage hs
    unfold Layer.advanceRefresh
    split
    · exact Keeps.pure hs
    · refine Keeps.bind (keeps_stepRefresh hplain hr hs) ?_
      intro next hnext
      split
      · exact Keeps.pure hnext
      · exact ih next hnext

/-- Queued refreshes run one after another keep the invariant. -/
theorem keeps_runAll :
    ∀ rs : List (Refresh V E L),
      (∀ r ∈ rs, m.Serves load r.key r.codec r.loader) →
      m.Keeps load (World.runAll (c.host load pauses) rs).settled
        fun _ => True := by
  intro rs
  induction rs with
  | nil =>
    intro _
    exact Keeps.pure trivial
  | cons r rest ih =>
    intro hall
    have hsplit := List.forall_mem_cons.1 hall
    refine Keeps.actBind (keeps_refresh hplain hsplit.1) ?_ ?_
    · exact fun _ _ => trivial
    · exact fun _ _ => ih hsplit.2

theorem keeps_runQueued :
    m.Keeps load (World.runQueued (c.host load pauses)).settled
      fun _ => True := by
  have htake : m.Keeps load
      (Act.settled (Act.safe (World.takeQueue (X := X))))
      fun outcome => ∀ jobs, outcome = .ok jobs →
        ∀ j ∈ jobs,
          m.Serves load j.refresh.key j.refresh.codec j.refresh.loader := by
    intro w hw
    refine ⟨⟨hw.fills, List.forall_mem_nil _, List.forall_mem_nil _,
      hw.words⟩, ?_⟩
    intro jobs hjobs
    cases hjobs
    exact hw.serves
  refine Keeps.actBind htake (fun _ _ => trivial) ?_
  intro jobs hjobs
  refine Keeps.actBind (keeps_runAll hplain _ ?_) (fun _ _ => trivial) ?_
  · exact List.forall_mem_map.2 (hjobs jobs rfl)
  · exact fun _ _ => Keeps.pure trivial

/-- Turns that are given to queued refreshes keep the invariant. -/
theorem keeps_giveTurns :
    ∀ n, m.Keeps load (World.giveTurns (c.host load pauses) n)
      fun _ => True := by
  intro n
  induction n with
  | zero => exact Keeps.pure trivial
  | succ n ih =>
    have htake : m.Keeps load (World.takeJob (X := X)) fun job =>
        ∀ j, job = some j →
          m.Serves load j.refresh.key j.refresh.codec j.refresh.loader
            ∧ Carries (m.answer j.refresh.key) j.stage := by
      intro w hw
      refine ⟨⟨hw.fills, ?_, ?_, hw.words⟩, ?_⟩
      · exact fun j hj => hw.serves j (List.mem_of_mem_tail hj)
      · exact fun j hj => hw.carries j (List.mem_of_mem_tail hj)
      · intro j hj
        have hmem := List.mem_of_mem_head? hj
        exact ⟨hw.serves j hmem, hw.carries j hmem⟩
    unfold World.giveTurns
    refine Keeps.bind htake ?_
    intro job hjob
    cases job with
    | none => exact Keeps.pure trivial
    | some j =>
      obtain ⟨hserves, hcarries⟩ := hjob j rfl
      refine Keeps.bind (P := fun next => next.refresh = j.refresh
        ∧ Carries (m.answer j.refresh.key) next.stage) ?_ ?_
      · unfold Layer.pollJob
        refine Keeps.bind (keeps_advanceRefresh hplain hserves 4 j.stage
          hcarries) ?_
        exact fun stage hstage => Keeps.pure ⟨rfl, hstage⟩
      · intro next hnext
        refine Keeps.bind (P := fun _ => True) ?_ fun _ _ => ih
        intro w hw
        unfold World.returnJob
        refine ⟨?_, trivial⟩
        show m.Holds load (if next.stage.isFinal then w
          else { w with queue := w.queue ++ [next] })
        split
        · exact hw
        · rw [← hnext.1] at hserves hnext
          refine ⟨hw.fills, ?_, ?_, hw.words⟩
          · exact List.forall_mem_append.2
              ⟨hw.serves, List.forall_mem_singleton.2 hserves⟩
          · exact List.forall_mem_append.2
              ⟨hw.carries, List.forall_mem_singleton.2 hnext.2⟩

/-- Evicting keeps the invariant. -/
theorem keeps_of_deleted {α : Type} {act : StateM (World V E L X) α}
    (hact : Makes (c.host load pauses) act fun _ calls => Deleted calls) :
    m.Keeps load act fun _ => True := by
  refine Keeps.of_makes hplain hact ?_
  intro a calls hdeleted _
  exact ⟨asks_of_deleted hdeleted, fun _ => trivial⟩

/-- However the queued refreshes are run, that keeps the invariant. -/
theorem keeps_runTasks :
    m.Keeps load
      (Operation.runTasks (c.host load pauses) c).settled
      fun _ => True := by
  unfold Operation.runTasks
  split
  · exact Keeps.safeMap (g := fun _ => Reply.nothing)
      (keeps_giveTurns hplain _)
  · exact Keeps.actMap (keeps_runQueued hplain)

end Operations

/-- Holding a lock from outside keeps the invariant. -/
theorem keeps_hold (key : String) :
    m.Keeps load (World.hold (X := X) key) fun _ => True := by
  unfold World.hold
  refine Keeps.bind (P := fun _ => True)
    (fun w hw => ⟨hw.withLocks _, trivial⟩) ?_
  intro granted _
  split
  · exact fun w hw => ⟨hw.congr rfl rfl rfl, trivial⟩
  · exact Keeps.pure trivial

/-- So does giving it back. -/
theorem keeps_unhold (key : String) :
    m.Keeps load (World.unhold (X := X) key) fun _ => True := by
  intro w hw
  unfold World.unhold
  by_cases hkey : key ∈ w.outside
  · simp only [bind, StateT.bind, get, getThe, MonadStateOf.get,
      StateT.get, pure, hkey, if_true]
    exact ⟨hw.congr rfl rfl rfl, trivial⟩
  · simp only [bind, StateT.bind, get, getThe, MonadStateOf.get,
      StateT.get, pure, hkey, if_false]
    exact ⟨hw, trivial⟩

/-! ## Runs -/

variable (m load) in
/-- Operations that put nothing into the store beside the layer, and
fetches that serve a key with settings of an allowed kind. -/
def Allows (allowed : CacheSettings → Prop) : Operation V E L → Prop
  | .fetch f =>
    m.Serves load f.key f.codec f.loader ∧ allowed f.settings
  | .concurrent _ => False
  | .preload _ _ => False
  | .set _ _ _ => False
  | .setError _ _ _ => False
  | _ => True

variable (m) in
/-- The reply that an operation is to have: the one of a fetch is the
answer of its key. -/
def Answers : Operation V E L → Except Crash (Reply V E) → Prop
  | .fetch f, reply => reply = .ok (.result (m.answer f.key))
  | _, _ => True

/-- An allowed operation keeps the invariant, and a fetch with steady
settings comes to the answer of its key. -/
theorem keeps_perform {c : Wiring} {pauses : L → Nat}
    (hplain : c.locker.Plain) {allowed : CacheSettings → Prop}
    (hsteady : ∀ s, allowed s → s.Steady) {op : Operation V E L}
    (hop : m.Allows load allowed op) :
    m.Keeps load (op.perform (c.host load pauses) c).settled
      (m.Answers op) := by
  cases op with
  | fetch f =>
    refine Keeps.actMap ((keeps_fetch hplain hop.1).imp ?_)
    intro outcome hout
    rcases hout with rfl | hnot
    · rfl
    · exact absurd (hsteady _ hop.2) hnot
  | concurrent fs => cases hop
  | preload key e => cases hop
  | set key v ttl => cases hop
  | setError key e ttl => cases hop
  | evictOnSuccess method keys result =>
    have hmakes := Layer.makes_evictOnSuccess (c.host load pauses) method
      keys result
    exact Keeps.safeMap
      (keeps_of_deleted hplain (hmakes.imp fun _ _ h => h.2.deleted))
  | evictKeys method keys =>
    have hmakes := Layer.makes_evictKeys (c.host load pauses) method keys
    exact Keeps.safeMap
      (keeps_of_deleted hplain (hmakes.imp fun _ _ h => h.deleted))
  | runQueued => exact keeps_runTasks hplain
  | age key remaining =>
    exact fun w hw => ⟨hw.withStore hw.fills.age, trivial⟩
  | undeletable key =>
    exact fun w hw => ⟨hw.withStore (hw.fills.of_entries rfl), trivial⟩
  | switch s =>
    exact fun w hw => ⟨⟨hw.fills.of_entries rfl, hw.serves, hw.carries,
      hw.words⟩, trivial⟩
  | hold key => exact Keeps.safeMap (keeps_hold key)
  | unhold key => exact Keeps.safeMap (keeps_unhold key)
  | isHeld key => exact fun w hw => ⟨hw, trivial⟩
  | get key => exact fun w hw => ⟨hw.withStore hw.fills.get, trivial⟩
  | delete keys =>
    exact fun w hw => ⟨hw.withStore hw.fills.delete, trivial⟩
  | describe => exact fun w hw => ⟨hw, trivial⟩

/-- A run of operations on a layer that starts with an empty cache.  The
settings of its fetches are of an allowed kind. -/
structure Run (m : Meaning V E) (allowed : CacheSettings → Prop)
    (L X : Type) where
  wiring : Wiring
  plain : wiring.locker.Plain
  load : L → Act (World V E L X) (Except E V)
  pauses : L → Nat
  start : World V E L X
  empty : start.store.entries = []
  idle : start.queue = []
  words : ∀ word ∈ start.words, word < UInt64.size
  operations : List (Operation V E L)
  allows : ∀ op ∈ operations, m.Allows load allowed op

namespace Run

variable {allowed : CacheSettings → Prop}

/-- The replies to the operations, one after another.  One that crashes
does not keep the next from being made. -/
def replies (c : Wiring) (load : L → Act (World V E L X) (Except E V))
    (pauses : L → Nat) (operations : List (Operation V E L)) :
    StateM (World V E L X) (List (Except Crash (Reply V E))) :=
  operations.mapM fun op =>
    (op.perform (c.host load pauses) c).settled

/-- A run with its replies and the world it ends in. -/
def finish (run : m.Run allowed L X) :
    List (Except Crash (Reply V E)) × World V E L X :=
  replies run.wiring run.load run.pauses run.operations run.start

/-- A run starts with the invariant. -/
theorem holds_start (run : m.Run allowed L X) :
    m.Holds run.load run.start where
  fills := by
    intro key e he
    rw [Store.entry?, run.empty] at he
    cases he
  serves := by
    rw [run.idle]
    exact List.forall_mem_nil _
  carries := by
    rw [run.idle]
    exact List.forall_mem_nil _
  words := run.words

/-- Operations one after another keep the invariant, and each has the
reply that it is to have. -/
theorem keeps_replies {c : Wiring} {pauses : L → Nat}
    (hplain : c.locker.Plain)
    (hsteady : ∀ s, allowed s → s.Steady) :
    ∀ operations : List (Operation V E L),
      (∀ op ∈ operations, m.Allows load allowed op) →
      m.Keeps load (replies c load pauses operations)
        (List.Forall₂ m.Answers operations) := by
  intro operations
  induction operations with
  | nil =>
    intro _
    exact Keeps.pure .nil
  | cons op rest ih =>
    intro hall
    have hsplit := List.forall_mem_cons.1 hall
    unfold replies
    rw [List.mapM_cons]
    refine Keeps.bind (keeps_perform hplain hsteady hsplit.1) ?_
    intro reply hreply
    refine Keeps.bind (ih hsplit.2) ?_
    intro replies hreplies
    exact Keeps.pure (.cons hreply hreplies)

end Run

end Meaning

/-! ## The result -/

/-- The meaning in which every key answers a unit that is not stored. -/
def Meaning.unit : Meaning Unit Unit where
  codec _ := .unit
  answer _ := .ok ()
  decode_encode := by
    intro key value again v hencode
    cases hencode
  ofCached_toCached := by
    intro key e cached hcached
    cases hcached

/-- The run of one fetch of a unit, for which one random word is left. -/
def Meaning.Run.unit {allowed : CacheSettings → Prop}
    {settings : CacheSettings} (hallowed : allowed settings) {word : Nat}
    (hlt : word < UInt64.size) : Meaning.unit.Run allowed Unit Unit where
  wiring := ⟨.none, .none⟩
  plain := trivial
  load := fun _ => Pure.pure (.ok ())
  pauses := fun _ => 0
  start := { World.initial () with words := [word] }
  empty := rfl
  idle := rfl
  words := List.forall_mem_singleton.2 hlt
  operations := [.fetch (.unit settings)]
  allows := List.forall_mem_singleton.2
    ⟨⟨rfl, fun _ => ⟨rfl, rfl, rfl, rfl⟩⟩, hallowed⟩

/-- That run ends with a crash if the word selects no time. -/
theorem Meaning.Run.finish_unit {allowed : CacheSettings → Prop}
    {settings : CacheSettings} (hallowed : allowed settings) {word : Nat}
    (hlt : word < UInt64.size)
    (hnone : Jitter.sample? settings.ttl settings.jitterPercent word
      = none) :
    (Run.unit hallowed hlt).finish.1 = [.error .noDuration] := by
  let h : Host (World Unit Unit Unit Unit) Unit Unit Unit :=
    Wiring.host ⟨.none, .none⟩ (fun _ => Pure.pure (.ok ())) fun _ => 0
  let w : World Unit Unit Unit Unit :=
    { World.initial () with words := [word] }
  have hload : ∀ w, (h.load ()).settled w = (.ok (.ok ()), w) :=
    fun _ => rfl
  have hcrash := Layer.populate_of_none (h := h) (s := w)
    (f := .unit settings) rfl rfl (hload _) rfl hnone
  have hfetch : (Operation.perform h ⟨.none, .none⟩
      (.fetch (.unit settings))).settled w = (.error .noDuration, _) :=
    Act.settled_bind_of_error (Act.settled_bind_of_error hcrash)
  show (Id.run (StateT.run (List.mapM _ [Operation.fetch _]) w)).1 = _
  rw [List.mapM_cons, List.mapM_nil]
  show [((Operation.perform h ⟨.none, .none⟩
    (.fetch (.unit settings))).settled w).1] = _
  rw [hfetch]

/-- In every run whose fetches have settings of an allowed kind, each
fetch comes to the answer of its key and every entry stands for its key,
exactly if all allowed settings are steady. -/
theorem Meaning.steady_iff_answers (allowed : CacheSettings → Prop) :
    (∀ settings, allowed settings → settings.Steady) ↔
      ∀ (V E L X : Type) (m : Meaning V E) (run : m.Run allowed L X),
        List.Forall₂ m.Answers run.operations run.finish.1
          ∧ m.Fills run.finish.2.store := by
  constructor
  · intro hsteady V E L X m run
    have hkeeps : m.Keeps run.load
        (Run.replies run.wiring run.load run.pauses run.operations)
        (List.Forall₂ m.Answers run.operations) :=
      Run.keeps_replies run.plain hsteady run.operations run.allows
    have hend := hkeeps run.start run.holds_start
    exact ⟨hend.2, hend.1.fills⟩
  · intro hall settings hallowed word hlt
    cases hs : Jitter.sample? settings.ttl settings.jitterPercent word with
    | some ttl => rfl
    | none =>
      have hanswers := (hall _ _ _ _ _ (Run.unit hallowed hlt)).1
      rw [Run.finish_unit hallowed hlt hs] at hanswers
      cases hanswers with
      | cons hreply _ => cases hreply

/-- The endless settings are not steady: in the run of one fetch with
them the caller is left without the answer. -/
theorem Meaning.exists_run_endless :
    ∃ run : Meaning.unit.Run (· = CacheSettings.endless) Unit Unit,
      run.finish.1 = [.error .noDuration]
        ∧ ¬ List.Forall₂ Meaning.unit.Answers run.operations
          run.finish.1 := by
  have hlt : 0 < UInt64.size := by decide
  have hnone : Jitter.sample? CacheSettings.endless.ttl
      CacheSettings.endless.jitterPercent 0 = none := by
    decide +kernel
  let run : Meaning.unit.Run (· = CacheSettings.endless) Unit Unit :=
    .unit rfl hlt
  have hcrash : run.finish.1 = [.error .noDuration] :=
    Run.finish_unit rfl hlt hnone
  refine ⟨run, hcrash, ?_⟩
  rw [hcrash]
  intro hanswers
  cases hanswers with
  | cons hreply _ => cases hreply

end PolicyWeave
