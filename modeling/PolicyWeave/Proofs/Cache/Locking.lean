import Mathlib.Data.List.Basic
import Mathlib.Data.List.Perm.Basic
import PolicyWeave.Cache.Script
import PolicyWeave.Proofs.Cache.Guards

/-!
# Layers that share a locker

Any number of fetches and refreshes, on layers that share one lock table
and step in any order.

There are five groups.

* `Tenant` is a host whose locker is the shared table.  What some calls
  do to the table is what they say.
* `Task` is a fetch or a refresh under way, and `System` is a number of
  tasks over one state, with the history of their calls.  An `Event`
  starts a task, steps one, or changes the state beside the locks.
* `System.Sound` is the invariant.  The keys held in the table are those
  of the tasks that stand inside their lock section.
* The invariant is kept by every event.
* `System.disciplined` is the result: in every run the guards are
  accounted for, and a guard of a key follows on another one only when
  what was stored under that one is there to be found.
-/

namespace PolicyWeave

variable {S V E L : Type}

/-! ## Tenants of a lock table -/

/-- Tables that hold the same keys and have counted the same guards. -/
def LockTable.Agrees (t t' : LockTable) : Prop :=
  t'.held = t.held ∧ t'.acquired = t.acquired ∧ t'.released = t.released

/-- What an operation does to a lock table: what its call says. -/
def LockTable.Takes (t : LockTable) :
    Option (HostCall V E L) → LockTable → Prop
  | some (.lock key granted), t' => t.lock key = (granted, t')
  | some (.release key), t' => t' = t.release key
  | _, t' => t.Agrees t'

/-- A host that shares a lock table with others. -/
structure Tenant (locks : S → LockTable) (V E L : Type) where
  host : Host S V E L
  lawful : ∀ {s t : S} {c : Option (HostCall V E L)},
    host.Does s c t → (locks s).Takes c (locks t)

/-- The layers over a world are tenants of its lock table, with the table
as their locker or with none, if their loaders leave it alone. -/
def Wiring.tenant {X : Type} (hasLocker : Bool) (executor : Executor)
    (load : L → Act (World V E L X) (Except E V)) (pauses : L → Nat)
    (hload : ∀ (loader : L) (w : World V E L X),
      w.locks.Agrees ((load loader).settled w).2.locks) :
    Tenant (World.locks (V := V) (E := E) (L := L) (X := X)) V E L where
  host := Wiring.host ⟨if hasLocker then .table else .none, executor⟩
    load pauses
  lawful := by
    intro s t c does
    cases does with
    | get key => exact ⟨rfl, rfl, rfl⟩
    | set key v ttl => exact ⟨rfl, rfl, rfl⟩
    | setError key e ttl => exact ⟨rfl, rfl, rfl⟩
    | delete keys => exact ⟨rfl, rfl, rfl⟩
    | lock hl key =>
      cases hasLocker with
      | false => cases hl
      | true =>
        cases hl
        rfl
    | release key => rfl
    | submit hs r =>
      simp only [Wiring.host] at hs
      split at hs
      · cases hs
      · cases hs
        exact ⟨rfl, rfl, rfl⟩
    | load loader => exact hload loader s
    | draw =>
      show s.locks.Agrees (World.draw s).2.locks
      rw [World.draw]
      split <;> exact ⟨rfl, rfl, rfl⟩
    | report e => exact ⟨rfl, rfl, rfl⟩

namespace LockTable

variable {t t' : LockTable} {key : String}

/-- A table grants a key that is not held. -/
theorem eq_of_lock_eq_true (hlock : t.lock key = (true, t')) :
    key ∉ t.held ∧ t'.held = key :: t.held
      ∧ t'.acquired = t.acquired + 1 ∧ t'.released = t.released := by
  unfold LockTable.lock at hlock
  split at hlock
  · cases hlock
  · rename_i hfree
    cases hlock
    refine ⟨?_, rfl, rfl, rfl⟩
    intro hheld
    apply hfree
    rw [LockTable.isHeld, List.contains_iff_mem.2 hheld, Bool.or_true]

/-- A table that refuses stays as it is. -/
theorem agrees_of_lock_eq_false (hlock : t.lock key = (false, t')) :
    t.Agrees t' := by
  unfold LockTable.lock at hlock
  split at hlock
  · cases hlock
    exact ⟨rfl, rfl, rfl⟩
  · cases hlock

theorem Agrees.trans {t'' : LockTable} (h : t.Agrees t')
    (h' : t'.Agrees t'') : t.Agrees t'' :=
  ⟨h'.1.trans h.1, h'.2.1.trans h.2.1, h'.2.2.trans h.2.2⟩

end LockTable

section Paths

variable {locks : S → LockTable} (tenant : Tenant locks V E L)
  {s t : S} {key : String} {calls : List (HostCall V E L)}

/-- An operation that is no call to the locker leaves the table alone. -/
theorem Tenant.agrees_of_does {c : Option (HostCall V E L)}
    (does : tenant.host.Does s c t)
    (hc : ∀ x, c = some x → x.isLocking = false) :
    (locks s).Agrees (locks t) := by
  have htakes := tenant.lawful does
  rcases c with _ | c
  · exact htakes
  · have hlocking := hc c rfl
    cases c <;> first | exact htakes | cases hlocking

theorem Tenant.agrees_of_lockless (path : tenant.host.Trail s calls t)
    (hcalls : Lockless calls) : (locks s).Agrees (locks t) := by
  induction path with
  | nil s => exact ⟨rfl, rfl, rfl⟩
  | call first _ ih =>
    have hsplit := List.forall_mem_cons.1 hcalls
    refine (tenant.agrees_of_does first ?_).trans (ih hsplit.2)
    intro x hx
    rw [← Option.some.inj hx]
    exact hsplit.1
  | quiet first _ ih =>
    refine (tenant.agrees_of_does first ?_).trans (ih hcalls)
    intro x hx
    cases hx

/-- A lock that was granted was free, and is held from then on. -/
theorem Tenant.table_of_granted
    (path : tenant.host.Trail s [.lock key true] t) :
    key ∉ (locks s).held ∧ (locks t).held = key :: (locks s).held
      ∧ (locks t).acquired = (locks s).acquired + 1
      ∧ (locks t).released = (locks s).released := by
  obtain ⟨u, v, hbefore, does, hafter⟩ := path.of_singleton
  obtain ⟨hheld, hacquired, hreleased⟩ :=
    tenant.agrees_of_lockless hbefore lockless_nil
  obtain ⟨hheld', hacquired', hreleased'⟩ :=
    tenant.agrees_of_lockless hafter lockless_nil
  have hlock := LockTable.eq_of_lock_eq_true (tenant.lawful does)
  rw [hheld', hacquired', hreleased', hlock.2.1, hlock.2.2.1,
    hlock.2.2.2, ← hheld, ← hacquired, ← hreleased]
  exact ⟨hlock.1, rfl, rfl, rfl⟩

/-- A lock that was refused leaves the table alone. -/
theorem Tenant.agrees_of_refused
    (path : tenant.host.Trail s [.lock key false] t) :
    (locks s).Agrees (locks t) := by
  obtain ⟨u, v, hbefore, does, hafter⟩ := path.of_singleton
  have hbefore := tenant.agrees_of_lockless hbefore lockless_nil
  have hafter := tenant.agrees_of_lockless hafter lockless_nil
  have hlock := LockTable.agrees_of_lock_eq_false (tenant.lawful does)
  exact (hbefore.trans hlock).trans hafter

/-- A lock that is given back is held no longer. -/
theorem Tenant.table_of_returned (hcalls : Lockless calls)
    (path : tenant.host.Trail s (calls ++ [.release key]) t) :
    (locks t).held = (locks s).held.erase key
      ∧ (locks t).acquired = (locks s).acquired
      ∧ (locks t).released = (locks s).released + 1 := by
  obtain ⟨u, hpath, hrelease⟩ := path.split
  obtain ⟨u', v, hbefore, does, hafter⟩ := hrelease.of_singleton
  obtain ⟨hheld, hacquired, hreleased⟩ :=
    (tenant.agrees_of_lockless hpath hcalls).trans
      (tenant.agrees_of_lockless hbefore lockless_nil)
  obtain ⟨hheld', hacquired', hreleased'⟩ :=
    tenant.agrees_of_lockless hafter lockless_nil
  have hv : locks v = (locks u').release key := tenant.lawful does
  rw [hheld', hacquired', hreleased', hv]
  show (locks u').held.erase key = _ ∧ (locks u').acquired = _
    ∧ (locks u').released + 1 = _
  rw [hheld, hacquired, hreleased]
  exact ⟨rfl, rfl, rfl⟩

/-- A move keeps the table in step with the guards of the tasks, among
which its task has the place between `before` and `after`. -/
theorem Tenant.table_of_handling {guard next : Option String}
    {before after : List String} (path : tenant.host.Trail s calls t)
    (hh : Handling key guard calls next)
    (hheld : (locks s).held.Perm (before ++ guard.toList ++ after))
    (hnodup : (locks s).held.Nodup)
    (hcount : (locks s).acquired
      = (locks s).released + (locks s).held.length) :
    (locks t).held.Perm (before ++ next.toList ++ after)
      ∧ (locks t).held.Nodup
      ∧ (locks t).acquired
        = (locks t).released + (locks t).held.length := by
  have hagrees : (locks s).Agrees (locks t) →
      (locks t).held.Perm (before ++ guard.toList ++ after)
        ∧ (locks t).held.Nodup
        ∧ (locks t).acquired
          = (locks t).released + (locks t).held.length := by
    intro ⟨h1, h2, h3⟩
    rw [h1, h2, h3]
    exact ⟨hheld, hnodup, hcount⟩
  cases hh with
  | nothing hc => exact hagrees (tenant.agrees_of_lockless path hc)
  | refused => exact hagrees (tenant.agrees_of_refused path)
  | granted =>
    obtain ⟨hfree, h1, h2, h3⟩ := tenant.table_of_granted path
    rw [h1, h2, h3]
    simp only [Option.toList_none, Option.toList_some,
      List.append_nil, List.append_assoc, List.singleton_append]
      at hheld ⊢
    refine ⟨(hheld.cons key).trans List.perm_middle.symm,
      List.nodup_cons.2 ⟨hfree, hnodup⟩, ?_⟩
    rw [List.length_cons, hcount]
    omega
  | returned hc =>
    obtain ⟨h1, h2, h3⟩ := tenant.table_of_returned hc path
    rw [h1, h2, h3]
    simp only [Option.toList_none, Option.toList_some,
      List.append_nil, List.append_assoc, List.singleton_append]
      at hheld ⊢
    have hperm := hheld.trans List.perm_middle
    have hmem : key ∈ (locks s).held :=
      hperm.mem_iff.2 List.mem_cons_self
    have herase := hperm.erase key
    rw [List.erase_cons_head] at herase
    refine ⟨herase, hnodup.erase key, ?_⟩
    have hpos := List.length_pos_of_mem hmem
    rw [List.length_erase_of_mem hmem, hcount]
    omega

end Paths

/-! ## Tasks -/

/-- A fetch or a refresh under way. -/
inductive Task (V E L : Type) where
  | fetch (f : Fetch V E L) (stage : Stage V E)
  | refresh (r : Refresh V E L) (stage : RefreshStage V E)

namespace Task

/-- The key of a task. -/
def key : Task V E L → String
  | fetch f _ => f.key
  | refresh r _ => r.key

/-- The key whose guard a task holds where it stands. -/
def guard? : Task V E L → Option String
  | fetch f stage => f.guard? stage
  | refresh r stage => r.guard? stage

/-- Whether a task has ended. -/
def isFinal : Task V E L → Bool
  | fetch _ stage => stage.isFinal
  | refresh _ stage => stage.isFinal

/-- One step of a task. -/
def step (h : Host S V E L) : Task V E L → StateM S (Task V E L)
  | fetch f stage => fetch f <$> Layer.step h f stage
  | refresh r stage => refresh r <$> Layer.stepRefresh h r stage

/-- The calls that a task has made when it stands where it does. -/
def Transcript (h : Host S V E L) :
    Task V E L → List (HostCall V E L) → Prop
  | fetch f stage, calls => FetchTranscript h f stage calls
  | refresh r stage, calls => RefreshTranscript h r stage calls

variable {h : Host S V E L} {task : Task V E L}
  {calls : List (HostCall V E L)}

/-- A task continues its transcript and handles the guard of its key. -/
theorem makes_step (ht : task.Transcript h calls) :
    Makes h (task.step h) fun next more =>
      next.Transcript h (calls ++ more)
        ∧ Handling task.key task.guard? more next.guard? := by
  cases task with
  | fetch f stage =>
    refine Makes.map ((Layer.makes_step h f stage).imp ?_)
    intro next more hmove
    exact ⟨FetchTranscript.move ht hmove, hmove.handling⟩
  | refresh r stage =>
    refine Makes.map ((Layer.makes_stepRefresh h r stage).imp ?_)
    intro next more hmove
    exact ⟨RefreshTranscript.move ht hmove, hmove.handling⟩

theorem Transcript.locking (ht : task.Transcript h calls) :
    Locking task.key task.guard? calls := by
  cases task with
  | fetch f stage => exact FetchTranscript.locking ht
  | refresh r stage => exact RefreshTranscript.locking ht

/-- A task that has ended holds no guard. -/
theorem guard?_of_isFinal (hf : task.isFinal) : task.guard? = none := by
  cases task with
  | fetch f stage => cases stage <;> first | rfl | cases hf
  | refresh r stage => cases stage <;> first | rfl | cases hf

end Task

/-! ## Systems -/

/-- A task of a tenant. -/
structure Agent (locks : S → LockTable) (V E L : Type) where
  tenant : Tenant locks V E L
  task : Task V E L

/-- Tasks over one state, by number, with the history of their calls. -/
structure System (locks : S → LockTable) (V E L : Type) where
  shared : Traced S (Nat × HostCall V E L)
  agents : List (Agent locks V E L)

/-- What may happen next: a call or a refresh begins, a task steps, or the
state changes beside the locks. -/
inductive Turn (locks : S → LockTable) (V E L : Type) where
  | call (tenant : Tenant locks V E L) (f : Fetch V E L)
  | refresh (tenant : Tenant locks V E L) (r : Refresh V E L)
  | step (i : Nat)
  | change (g : S → S) (kept : ∀ s, (locks s).Agrees (locks (g s)))

/-- A state in which no lock is held. -/
structure Unlocked (locks : S → LockTable) where
  state : S
  held : (locks state).held = []
  even : (locks state).acquired = (locks state).released

/-- The host of an agent, which writes down its calls under a number. -/
def Agent.host {locks : S → LockTable} (a : Agent locks V E L) (i : Nat) :
    Host (Traced S (Nat × HostCall V E L)) V E L :=
  a.tenant.host.traced fun c => (i, c)

namespace System

variable {locks : S → LockTable}

/-- A system without tasks. -/
def start (s : Unlocked locks) : System locks V E L :=
  ⟨⟨s.state, []⟩, []⟩

/-- The system after a turn.  A step of a task that is not there does
nothing. -/
def after (sys : System locks V E L) :
    Turn locks V E L → System locks V E L
  | .call tenant f =>
    { sys with agents := sys.agents ++ [⟨tenant, .fetch f .lookup⟩] }
  | .refresh tenant r =>
    { sys with agents := sys.agents ++ [⟨tenant, .refresh r .start⟩] }
  | .step i =>
    match sys.agents[i]? with
    | none => sys
    | some a =>
      let (task, shared) := a.task.step (a.host i) sys.shared
      ⟨shared, sys.agents.set i { a with task }⟩
  | .change g _ =>
    { sys with shared := { sys.shared with state := g sys.shared.state } }

/-- The system after a number of turns. -/
def run (s : Unlocked locks) (turns : List (Turn locks V E L)) :
    System locks V E L :=
  turns.foldl after (start s)

/-- The lock table. -/
def table (sys : System locks V E L) : LockTable :=
  locks sys.shared.state

/-- The calls of a task in a history. -/
def callsIn (i : Nat) (history : List (Nat × HostCall V E L)) :
    List (HostCall V E L) :=
  (history.filter fun note => note.1 == i).map Prod.snd

/-- The calls of a task. -/
def callsOf (sys : System locks V E L) (i : Nat) : List (HostCall V E L) :=
  callsIn i sys.shared.notes

/-- The live guards: what each task was granted and has not given back. -/
def guards (sys : System locks V E L) : List String :=
  (List.range sys.agents.length).flatMap fun i => guardsOf (sys.callsOf i)

/-! ### The calls of one task -/

section Calls

variable {i j : Nat} {c : HostCall V E L}
  {first last : List (Nat × HostCall V E L)}

theorem callsIn_append :
    callsIn i (first ++ last) = callsIn i first ++ callsIn i last := by
  simp [callsIn]

theorem callsIn_cons_self :
    callsIn i ((i, c) :: last) = c :: callsIn i last := by
  simp [callsIn]

theorem callsIn_map_self (calls : List (HostCall V E L)) :
    callsIn i (calls.map fun c => (i, c)) = calls := by
  simp [callsIn, List.filter_map, Function.comp_def]

theorem callsIn_map_of_ne (hne : i ≠ j) (calls : List (HostCall V E L)) :
    callsIn j (calls.map fun c => (i, c)) = [] := by
  simp [callsIn, List.filter_map, Function.comp_def, hne]

theorem mem_callsIn : c ∈ callsIn i last ↔ (i, c) ∈ last := by
  simp [callsIn]

end Calls

/-! ## The invariant -/

/-- A guard of a key that is granted after something was stored under the
guard of another task follows on the release of that one. -/
def Handover (history : List (Nat × HostCall V E L)) : Prop :=
  ∀ {first between last : List (Nat × HostCall V E L)} {i j : Nat}
    {c : HostCall V E L} {key : String},
    history = first ++ (i, c) :: (between ++ (j, .lock key true) :: last) →
    c.stored?.isSome → (i, .lock key true) ∈ first →
    (i, .release key) ∈ between

/-- What holds between the turns. -/
structure Sound (sys : System locks V E L) : Prop where
  transcripts : ∀ (i : Nat) (a : Agent locks V E L),
    sys.agents[i]? = some a →
    a.task.Transcript (a.host i) (sys.callsOf i)
  silent : ∀ i, sys.agents.length ≤ i → sys.callsOf i = []
  held : sys.table.held.Perm
    (sys.agents.filterMap fun a => a.task.guard?)
  nodup : sys.table.held.Nodup
  count : sys.table.acquired
    = sys.table.released + sys.table.held.length
  handover : Handover sys.shared.notes

theorem sound_start (s : Unlocked locks) :
    Sound (start s : System locks V E L) where
  transcripts := by
    intro i a ha
    cases ha
  silent := fun _ _ => rfl
  held := by
    show (locks s.state).held.Perm []
    rw [s.held]
  nodup := by
    show (locks s.state).held.Nodup
    rw [s.held]
    exact List.nodup_nil
  count := by
    show (locks s.state).acquired
      = (locks s.state).released + (locks s.state).held.length
    rw [s.held, s.even]
    rfl
  handover := by
    intro first between last i j c key heq
    simp [start] at heq

/-- A task that begins has made no calls and holds no guard. -/
theorem Sound.add {sys : System locks V E L} (hs : sys.Sound)
    {a : Agent locks V E L}
    (ht : a.task.Transcript (a.host sys.agents.length) [])
    (hg : a.task.guard? = none) :
    Sound { sys with agents := sys.agents ++ [a] } where
  transcripts := by
    intro i b hb
    rcases Nat.lt_trichotomy i sys.agents.length with hlt | rfl | hgt
    · rw [List.getElem?_append_left hlt] at hb
      exact hs.transcripts i b hb
    · rw [List.getElem?_concat_length] at hb
      cases hb
      show a.task.Transcript _ (sys.callsOf sys.agents.length)
      rw [hs.silent _ (Nat.le_refl _)]
      exact ht
    · have hlen : (sys.agents ++ [a]).length ≤ i := by
        rw [List.length_append]
        exact hgt
      rw [List.getElem?_eq_none hlen] at hb
      cases hb
  silent := by
    intro i hi
    refine hs.silent i ?_
    have hlen : (sys.agents ++ [a]).length ≤ i := hi
    rw [List.length_append] at hlen
    omega
  held := by
    rw [List.filterMap_append, List.filterMap_cons, hg,
      List.filterMap_nil, List.append_nil]
    exact hs.held
  nodup := hs.nodup
  count := hs.count
  handover := hs.handover

/-- A change beside the locks leaves the tasks as they are. -/
theorem Sound.change {sys : System locks V E L} (hs : sys.Sound)
    {state : S} (hkept : sys.table.Agrees (locks state)) :
    Sound { sys with shared := { sys.shared with state } } := by
  obtain ⟨hheld, hacquired, hreleased⟩ := hkept
  refine ⟨hs.transcripts, hs.silent, ?_, ?_, ?_, hs.handover⟩
  · show (locks state).held.Perm _
    rw [hheld]
    exact hs.held
  · show (locks state).held.Nodup
    rw [hheld]
    exact hs.nodup
  · show (locks state).acquired
      = (locks state).released + (locks state).held.length
    rw [hheld, hacquired, hreleased]
    exact hs.count

/-- A place in two lists put together is a place in one of them. -/
private theorem append_eq_append_cons {α : Type} {xs ys first last : List α}
    {x : α} (heq : xs ++ ys = first ++ x :: last) :
    (∃ rest, xs = first ++ x :: rest ∧ last = rest ++ ys)
      ∨ ∃ rest, first = xs ++ rest ∧ ys = rest ++ x :: last := by
  rcases List.append_eq_append_iff.1 heq with ⟨rest, h1, h2⟩ | ⟨rest, h1, h2⟩
  · exact .inr ⟨rest, h1, h2⟩
  · cases rest with
    | nil =>
      rw [List.append_nil] at h1
      rw [h1]
      exact .inr ⟨[], (List.append_nil _).symm, h2.symm⟩
    | cons y rest =>
      rw [List.cons_append] at h2
      injection h2 with hx hlast
      subst hx
      exact .inl ⟨rest, h1, hlast⟩

/-- A lock is granted only where the task that held it last has given it
back. -/
theorem Sound.handover_step {sys : System locks V E L} (hs : sys.Sound)
    {n : Nat} {calls : List (HostCall V E L)}
    (hgranted : ∀ key, .lock key true ∈ calls →
      calls = [.lock key true] ∧ key ∉ sys.table.held) :
    Handover (sys.shared.notes ++ calls.map fun c => (n, c)) := by
  intro first between last i j c key heq hstored hlock
  rw [show first ++ (i, c) :: (between ++ (j, .lock key true) :: last)
      = (first ++ (i, c) :: between) ++ (j, .lock key true) :: last by
    rw [List.append_assoc]
    rfl] at heq
  rcases append_eq_append_cons heq with ⟨rest, hold, _⟩ | ⟨rest, hfirst, hnew⟩
  · have hold' : sys.shared.notes
        = first ++ (i, c) :: (between ++ (j, .lock key true) :: rest) := by
      rw [hold, List.append_assoc]
      rfl
    exact hs.handover hold' hstored hlock
  · -- the lock is granted now, so every note before it is an old one
    have hmem : .lock key true ∈ calls := by
      have hin : (j, HostCall.lock key true) ∈ calls.map fun c => (n, c) := by
        rw [hnew]
        exact List.mem_append_right _ List.mem_cons_self
      obtain ⟨x, hx, hpair⟩ := List.mem_map.1 hin
      cases hpair
      exact hx
    obtain ⟨hone, hfree⟩ := hgranted key hmem
    have hnil : rest = [] := by
      rw [hone] at hnew
      cases rest with
      | nil => rfl
      | cons y rest => simp at hnew
    rw [hnil, List.append_nil] at hfirst
    have hcalls : sys.callsOf i
        = callsIn i first ++ c :: callsIn i between := by
      rw [callsOf, ← hfirst, callsIn_append, callsIn_cons_self]
    have hin : .lock key true ∈ sys.callsOf i := by
      rw [hcalls]
      exact List.mem_append_left _ (mem_callsIn.2 hlock)
    cases ha : sys.agents[i]? with
    | none =>
      rw [hs.silent i (List.getElem?_eq_none_iff.1 ha)] at hin
      cases hin
    | some a =>
      have hlocking := (hs.transcripts i a ha).locking
      cases hg : a.task.guard? with
      | some guard =>
        rw [hg] at hlocking
        have hheld : guard ∈ sys.table.held :=
          hs.held.mem_iff.2
            (List.mem_filterMap.2 ⟨a, List.mem_of_getElem? ha, hg⟩)
        rw [← hlocking.eq_of_mem hin] at hheld
        exact absurd hheld hfree
      | none =>
        rw [hg] at hlocking
        exact mem_callsIn.1
          (hlocking.release_mem hcalls hstored (mem_callsIn.2 hlock))

private theorem filterMap_append_cons {α β : Type} (g : α → Option β)
    (before after : List α) (x : α) :
    (before ++ x :: after).filterMap g
      = before.filterMap g ++ (g x).toList ++ after.filterMap g := by
  rw [List.filterMap_append, List.filterMap_cons]
  cases g x with
  | none => simp
  | some y => simp

/-- A task that makes some calls on its host and moves on keeps the
invariant. -/
theorem Sound.move {sys : System locks V E L} (hs : sys.Sound) {i : Nat}
    {a : Agent locks V E L} (ha : sys.agents[i]? = some a)
    {next : Task V E L} {calls : List (HostCall V E L)}
    {shared : Traced S (Nat × HostCall V E L)}
    (path : a.tenant.host.Trail sys.shared.state calls shared.state)
    (hnotes : shared.notes
      = sys.shared.notes ++ calls.map fun c => (i, c))
    (hnext : next.Transcript (a.host i) (sys.callsOf i ++ calls))
    (hhandling : Handling a.task.key a.task.guard? calls next.guard?) :
    Sound (⟨shared, sys.agents.set i { a with task := next }⟩ :
      System locks V E L) := by
  obtain ⟨hlt, hget⟩ := List.getElem?_eq_some_iff.1 ha
  have hself : callsIn i shared.notes = sys.callsOf i ++ calls := by
    rw [hnotes, callsIn_append, callsIn_map_self]
    rfl
  have hother : ∀ j, i ≠ j → callsIn j shared.notes = sys.callsOf j := by
    intro j hne
    rw [hnotes, callsIn_append, callsIn_map_of_ne hne, List.append_nil]
    rfl
  have hplace : ∃ before after, sys.agents = before ++ sys.agents[i] :: after
      ∧ before.length = i ∧ sys.agents.set i { a with task := next }
        = before ++ { a with task := next } :: after :=
    List.exists_of_set hlt
  obtain ⟨before, after, hagents, _, hset⟩ := hplace
  have hheld := hs.held
  rw [hagents, hget, filterMap_append_cons] at hheld
  have htable :=
    a.tenant.table_of_handling path hhandling hheld hs.nodup hs.count
  refine ⟨?_, ?_, ?_, htable.2.1, htable.2.2, ?_⟩
  · intro j b hb
    by_cases hij : i = j
    · subst hij
      have hb' : (sys.agents.set i { a with task := next })[i]? = some b :=
        hb
      rw [List.getElem?_set_self hlt] at hb'
      cases hb'
      show next.Transcript (a.host i) (callsIn i shared.notes)
      rw [hself]
      exact hnext
    · have hb' : (sys.agents.set i { a with task := next })[j]? = some b :=
        hb
      rw [List.getElem?_set_ne hij] at hb'
      show b.task.Transcript (b.host j) (callsIn j shared.notes)
      rw [hother j hij]
      exact hs.transcripts j b hb'
  · intro j hj
    have hlen : sys.agents.length ≤ j := by
      have hj' : (sys.agents.set i { a with task := next }).length ≤ j :=
        hj
      rw [List.length_set] at hj'
      exact hj'
    have hij : i ≠ j := by omega
    show callsIn j shared.notes = []
    rw [hother j hij]
    exact hs.silent j hlen
  · show (locks shared.state).held.Perm _
    rw [hset, filterMap_append_cons]
    exact htable.1
  · show Handover shared.notes
    rw [hnotes]
    refine hs.handover_step ?_
    intro key hmem
    have hone := hhandling.eq_of_mem hmem
    rw [hone] at path
    exact ⟨hone, (a.tenant.table_of_granted path).1⟩

/-- A step of a task keeps the invariant. -/
theorem Sound.step {sys : System locks V E L} (hs : sys.Sound) (i : Nat) :
    Sound (sys.after (.step i)) := by
  unfold after
  dsimp only
  cases ha : sys.agents[i]? with
  | none => exact hs
  | some a =>
    obtain ⟨calls, path, hnext, hhandling⟩ :=
      Task.makes_step (hs.transcripts i a ha) sys.shared
    obtain ⟨path', hnotes⟩ := path.of_traced
    exact hs.move ha path' hnotes hnext hhandling

/-- Every turn keeps the invariant. -/
theorem Sound.after {sys : System locks V E L} (hs : sys.Sound)
    (turn : Turn locks V E L) : Sound (sys.after turn) := by
  cases turn with
  | call tenant f => exact hs.add .lookup rfl
  | refresh tenant r => exact hs.add .start rfl
  | step i => exact hs.step i
  | change g kept => exact hs.change (kept _)

/-- The invariant holds after any number of turns. -/
theorem sound_run (s : Unlocked locks) (turns : List (Turn locks V E L)) :
    (run s turns).Sound := by
  have hfold : ∀ (turns : List (Turn locks V E L))
      (sys : System locks V E L), sys.Sound →
      (turns.foldl System.after sys).Sound := by
    intro turns
    induction turns with
    | nil =>
      intro sys hs
      exact hs
    | cons turn rest ih =>
      intro sys hs
      exact ih _ (hs.after turn)
  exact hfold turns _ (sound_start s)

/-! ## The result -/

private theorem flatMap_range_length {α β : Type} (q : α → Option β) :
    ∀ (xs : List α) (g : Nat → List β),
      (∀ (i : Nat) (x : α), xs[i]? = some x → g i = (q x).toList) →
      (List.range xs.length).flatMap g = xs.filterMap q := by
  intro xs
  induction xs with
  | nil =>
    intro g _
    rfl
  | cons x rest ih =>
    intro g hg
    have hrest := ih (fun i => g (i + 1)) fun i y hy => hg (i + 1) y hy
    rw [List.length_cons, List.range_succ_eq_map, List.flatMap_cons,
      List.flatMap_map, hg 0 x rfl]
    rw [show (List.range rest.length).flatMap (fun i => g i.succ)
      = rest.filterMap q from hrest, List.filterMap_cons]
    cases q x with
    | none => rfl
    | some y => rfl

/-- The live guards are those of the tasks inside their lock section. -/
theorem Sound.guards_eq {sys : System locks V E L} (hs : sys.Sound) :
    sys.guards = sys.agents.filterMap fun a => a.task.guard? := by
  refine flatMap_range_length _ sys.agents _ ?_
  intro i a ha
  exact (hs.transcripts i a ha).locking.guardsOf_eq

/-- A system whose locks are kept.

Every key has at most one live guard, the keys held in the table are
those of the live guards, and the table has counted them.  A task that
has ended has asked for a lock at most once, and has given it back once
if and only if it was granted.

What a task stored under its guard was stored before it gave the guard
back, and nobody else is granted the key before that.  A fetch that is
granted the key later, and then finds what was stored and can read it,
is done with that result and never runs its loader. -/
structure Disciplined (sys : System locks V E L) : Prop where
  nodup : sys.guards.Nodup
  held : ∀ key, key ∈ sys.table.held ↔ key ∈ sys.guards
  count : sys.table.acquired = sys.table.released + sys.guards.length
  ended : ∀ (i : Nat) (a : Agent locks V E L), sys.agents[i]? = some a →
    a.task.isFinal →
    lockCalls (sys.callsOf i) = []
      ∨ lockCalls (sys.callsOf i) = [.lock a.task.key false]
      ∨ lockCalls (sys.callsOf i)
        = [.lock a.task.key true, .release a.task.key]
  handover : Handover sys.shared.notes
  reread : ∀ {first between last : List (Nat × HostCall V E L)}
    {i j : Nat} {c : HostCall V E L} {key : String} {payload : Payload}
    {tenant : Tenant locks V E L} {f : Fetch V E L} {stage : Stage V E}
    {entry : Entry} {result : Except E V},
    sys.shared.notes
      = first ++ (i, c) :: (between ++ (j, .lock key true) :: last) →
    c.stored? = some (key, payload) →
    (i, .lock key true) ∈ first →
    sys.agents[j]? = some ⟨tenant, .fetch f stage⟩ →
    (j, .get key (.ok (some entry))) ∈ last →
    entry.payload = payload →
    f.codec.outcome? payload = some result →
    stage = .done result
      ∧ ∀ loader outcome,
        (j, .load loader outcome) ∉ sys.shared.notes

/-- Layers that share a locker keep its locks, however their fetches and
refreshes take turns. -/
theorem disciplined (s : Unlocked locks)
    (turns : List (Turn locks V E L)) : (run s turns).Disciplined := by
  have hs := sound_run s turns
  have hperm : (run s turns).table.held.Perm (run s turns).guards := by
    rw [hs.guards_eq]
    exact hs.held
  refine ⟨hperm.nodup_iff.1 hs.nodup, fun key => hperm.mem_iff, ?_, ?_,
    hs.handover, ?_⟩
  · rw [← hperm.length_eq]
    exact hs.count
  · intro i a ha hf
    have hlocking := (hs.transcripts i a ha).locking
    rw [Task.guard?_of_isFinal hf] at hlocking
    exact hlocking.lockCalls_eq
  · intro first between last i j c key payload tenant f stage entry result
      hnotes _ _ hj hget hpayload hread
    have htranscript : FetchTranscript _ f stage ((run s turns).callsOf j) :=
      hs.transcripts j _ hj
    have hcalls : (run s turns).callsOf j
        = callsIn j (first ++ (i, c) :: between)
          ++ .lock key true :: callsIn j last := by
      rw [callsOf, hnotes, show first ++ (i, c) ::
          (between ++ (j, .lock key true) :: last)
        = (first ++ (i, c) :: between) ++ (j, .lock key true) :: last by
          rw [List.append_assoc]
          rfl, callsIn_append, callsIn_cons_self]
    have hfound : f.codec.found? (.ok (some entry)) = some result := by
      rw [← hread, ← hpayload]
      rfl
    obtain ⟨hstage, hnoload⟩ :=
      htranscript.reread hcalls (mem_callsIn.2 hget) hfound
    refine ⟨hstage, ?_⟩
    intro loader outcome hload
    exact hnoload loader outcome (mem_callsIn.2 hload)

/-- Of two fetches of a key that both miss, the first one to ask for the
lock is granted it, and the other one is refused. -/
example :
    let tenant := Wiring.tenant true .none Script.run Script.pauses
      fun _ _ => ⟨rfl, rfl, rfl⟩
    let codec : Codec Nat String :=
      ⟨fun n => .ok (.ofNat n), fun _ => none, fun _ => none,
        fun _ => ""⟩
    let settings : CacheSettings :=
      ⟨"C.m", .ofMilliseconds 60, Number.Binary.zero,
        Number.Binary.zero⟩
    let call := Turn.call tenant
      ⟨settings, "k", codec, ⟨0, .ok 1, [], 0⟩, none⟩
    let sys := run ⟨World.initial [], rfl, rfl⟩
      [call, call, .step 0, .step 1, .step 1, .step 0]
    sys.table.held = ["k"] ∧ guardsOf (sys.callsOf 1) = ["k"]
      ∧ guardsOf (sys.callsOf 0) = [] := by
  decide +kernel

end System

end PolicyWeave
