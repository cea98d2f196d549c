import Mathlib.Data.List.Basic
import PolicyWeave.Proofs.Cache.Transcript

/-!
# Guards

A lock that was granted is a guard until it is given back.  This module
reads off a transcript which guard is held and what became of a lock.

There are four groups.

* `Asked` and `Locking` say how the calls to the locker lie among the
  others.  A lock is asked for at most once, and given back once if it
  was granted; nothing is stored after that.
* `guardsOf` and `lockCalls` are the guards held after some calls, and
  the calls to the locker among them.
* `Handling` is what one move does with the guard.
* `FetchTranscript.reread` is what the look-up under a lock is for: once
  it has found a result, the fetch is done with it and has loaded
  nothing.
-/

namespace PolicyWeave

variable {S V E L : Type}

/-! ## Calls to the locker -/

namespace HostCall

/-- Whether a call asks for a lock or gives one back. -/
def isLocking : HostCall V E L → Bool
  | .lock _ _ => true
  | .release _ => true
  | _ => false

/-- The payload that a call has stored under a key. -/
def stored? : HostCall V E L → Option (String × Payload)
  | .set key v _ (.ok _) => some (key, .value v)
  | .setError key e _ (.ok true) => some (key, .failure e)
  | _ => none

end HostCall

/-- Calls without any to the locker. -/
def Lockless (calls : List (HostCall V E L)) : Prop :=
  ∀ c ∈ calls, c.isLocking = false

/-- Calls that ask for a lock at most once, and whether it was granted. -/
inductive Asked (key : String) : Bool → List (HostCall V E L) → Prop where
  | never {calls : List (HostCall V E L)} (hc : Lockless calls) :
    Asked key false calls
  | refused {before after : List (HostCall V E L)} (hb : Lockless before)
      (ha : Lockless after) :
    Asked key false (before ++ .lock key false :: after)
  | granted {before after : List (HostCall V E L)} (hb : Lockless before)
      (ha : Lockless after) :
    Asked key true (before ++ .lock key true :: after)

/-- How the calls to the locker lie among the calls of a fetch or a
refresh, and the key whose guard is still held.  Once a lock was given
back nothing is called but a delete. -/
inductive Locking (key : String) :
    Option String → List (HostCall V E L) → Prop where
  | under {locked : Bool} {calls : List (HostCall V E L)}
      (asked : Asked key locked calls) :
    Locking key (if locked then some key else none) calls
  | past {locked : Bool} {calls last : List (HostCall V E L)}
      (asked : Asked key locked calls) (deleted : Deleted last) :
    Locking key none (calls ++ (released locked key ++ last))

section Lockless

variable {xs ys calls : List (HostCall V E L)} {key : String}

theorem Lockless.append (hx : Lockless xs) (hy : Lockless ys) :
    Lockless (xs ++ ys) :=
  List.forall_mem_append.2 ⟨hx, hy⟩

theorem Lockless.cons {c : HostCall V E L} (hc : c.isLocking = false)
    (hx : Lockless xs) : Lockless (c :: xs) :=
  List.forall_mem_cons.2 ⟨hc, hx⟩

theorem lockless_nil : Lockless ([] : List (HostCall V E L)) :=
  List.forall_mem_nil _

theorem Lockless.lock_notMem {granted : Bool} (hl : Lockless calls) :
    .lock key granted ∉ calls := by
  intro hmem
  have := hl _ hmem
  cases this

theorem Deleted.lockless (hd : Deleted calls) : Lockless calls := by
  cases hd with
  | nothing => exact lockless_nil
  | batch keys answer => exact .cons rfl lockless_nil

/-- Recording draws a word and may store something. -/
theorem Recorded.mem_cases {settings : CacheSettings} {wb : WriteBack}
    {outcome : Except Crash Unit}
    (hr : Recorded settings key wb outcome calls) {c : HostCall V E L}
    (hc : c ∈ calls) :
    (∃ word, c = .draw word)
      ∨ (∃ v ttl answer, c = .set key v ttl answer)
      ∨ ∃ e ttl answer, c = .setError key e ttl answer := by
  cases hr with
  | noDuration _ => exact .inl ⟨_, List.mem_singleton.1 hc⟩
  | written _ written =>
    rcases List.mem_cons.1 hc with hdraw | hc
    · exact .inl ⟨_, hdraw⟩
    · cases written with
      | value v answer =>
        exact .inr (.inl ⟨_, _, _, List.mem_singleton.1 hc⟩)
      | failure e answer =>
        exact .inr (.inr ⟨_, _, _, List.mem_singleton.1 hc⟩)
      | skip => cases hc

theorem Recorded.lockless {settings : CacheSettings} {wb : WriteBack}
    {outcome : Except Crash Unit}
    (hr : Recorded settings key wb outcome calls) : Lockless calls := by
  intro c hc
  rcases hr.mem_cases hc with ⟨_, rfl⟩ | ⟨_, _, _, rfl⟩ | ⟨_, _, _, rfl⟩
  all_goals rfl

/-- A first look-up makes no other calls than to look up and to hand a
refresh on. -/
theorem Fetch.mem_opening_cases {f : Fetch V E L} {h : Host S V E L}
    {first : Except BackendError (Option Entry)} {c : HostCall V E L}
    (hc : c ∈ f.opening h first) :
    c = .get f.key first ∨ ∃ r, c = .submit r := by
  rcases List.mem_cons.1 hc with hget | hc
  · exact .inl hget
  · unfold Fetch.offers at hc
    split at hc
    · split at hc
      · exact .inr ⟨_, List.mem_singleton.1 hc⟩
      · cases hc
    · cases hc
    · cases hc

/-- Up to its loader a fetch looks up, hands a refresh on, and asks for a
lock. -/
theorem Approach.mem_cases {h : Host S V E L} {f : Fetch V E L}
    {locked : Bool} (ha : Approach h f locked calls) {c : HostCall V E L}
    (hc : c ∈ calls) :
    (∃ answer, c = .get f.key answer) ∨ (∃ r, c = .submit r)
      ∨ ∃ granted, c = .lock f.key granted := by
  have hopening {first : Except BackendError (Option Entry)}
      (hc : c ∈ f.opening h first) :
      (∃ answer, c = .get f.key answer) ∨ (∃ r, c = .submit r)
        ∨ ∃ granted, c = .lock f.key granted :=
    (Fetch.mem_opening_cases hc).imp (fun heq => ⟨_, heq⟩) .inl
  cases ha with
  | unlocked _ => exact hopening hc
  | refused =>
    rcases List.mem_append.1 hc with hc | hc
    · exact hopening hc
    · exact .inr (.inr ⟨_, List.mem_singleton.1 hc⟩)
  | granted _ =>
    rcases List.mem_append.1 hc with hc | hc
    · exact hopening hc
    · rcases List.mem_cons.1 hc with hlock | hc
      · exact .inr (.inr ⟨_, hlock⟩)
      · exact .inl ⟨_, List.mem_singleton.1 hc⟩

/-- A fetch that is served looks up, hands a refresh on, and asks for a
lock and gives it back. -/
theorem Served.mem_cases {h : Host S V E L} {f : Fetch V E L}
    {result : Except E V} (hs : Served h f result calls)
    {c : HostCall V E L} (hc : c ∈ calls) :
    (∃ answer, c = .get f.key answer) ∨ (∃ r, c = .submit r)
      ∨ c = .lock f.key true ∨ c = .release f.key := by
  have hopening {first : Except BackendError (Option Entry)}
      (hc : c ∈ f.opening h first) :
      (∃ answer, c = .get f.key answer) ∨ (∃ r, c = .submit r)
        ∨ c = .lock f.key true ∨ c = .release f.key :=
    (Fetch.mem_opening_cases hc).imp (fun heq => ⟨_, heq⟩) .inl
  cases hs with
  | hit _ => exact hopening hc
  | hitAgain _ =>
    rcases List.mem_append.1 hc with hc | hc
    · exact hopening hc
    · simp only [List.mem_cons, List.not_mem_nil, or_false] at hc
      rcases hc with hlock | hget | hrelease
      · exact .inr (.inr (.inl hlock))
      · exact .inl ⟨_, hget⟩
      · exact .inr (.inr (.inr hrelease))

theorem Fetch.lockless_opening {f : Fetch V E L} {h : Host S V E L}
    {first : Except BackendError (Option Entry)} :
    Lockless (f.opening h first) := by
  intro c hc
  rcases Fetch.mem_opening_cases hc with rfl | ⟨_, rfl⟩ <;> rfl

end Lockless

/-- Calls that are none to the locker may follow. -/
theorem Asked.append {key : String} {locked : Bool}
    {calls more : List (HostCall V E L)} (ha : Asked key locked calls)
    (hm : Lockless more) : Asked key locked (calls ++ more) := by
  cases ha with
  | never hc => exact .never (hc.append hm)
  | refused hb ha =>
    rw [List.append_assoc]
    exact .refused hb (ha.append hm)
  | granted hb ha =>
    rw [List.append_assoc]
    exact .granted hb (ha.append hm)

theorem Approach.asked {h : Host S V E L} {f : Fetch V E L}
    {locked : Bool} {calls : List (HostCall V E L)}
    (ha : Approach h f locked calls) : Asked f.key locked calls := by
  cases ha with
  | unlocked _ => exact .never Fetch.lockless_opening
  | refused => exact .refused Fetch.lockless_opening lockless_nil
  | granted _ =>
    exact .granted Fetch.lockless_opening (.cons rfl lockless_nil)

theorem RefreshApproach.asked {h : Host S V E L} {r : Refresh V E L}
    {locked : Bool} {calls : List (HostCall V E L)}
    (ha : RefreshApproach h r locked calls) :
    Asked r.key locked calls := by
  cases ha with
  | unlocked _ => exact .never lockless_nil
  | granted => exact Asked.granted lockless_nil lockless_nil

/-- The lock is given back behind a loader and what was recorded. -/
theorem Asked.past {key : String} {locked : Bool} {c : HostCall V E L}
    {calls more last : List (HostCall V E L)}
    (ha : Asked key locked calls) (hc : c.isLocking = false)
    (hm : Lockless more) (hl : Deleted last) :
    Locking key none
      (calls ++ c :: (more ++ released locked key) ++ last) := by
  have hpast := Locking.past (ha.append (hm.cons hc)) hl
  simp only [List.append_assoc, List.cons_append] at hpast ⊢
  exact hpast

theorem Asked.closed {key : String} {locked : Bool} {c : HostCall V E L}
    {calls more : List (HostCall V E L)} (ha : Asked key locked calls)
    (hc : c.isLocking = false) (hm : Lockless more) :
    Locking key none (calls ++ c :: (more ++ released locked key)) := by
  have hpast := ha.past hc hm .nothing
  rw [List.append_nil] at hpast
  exact hpast

/-- The key whose guard a fetch holds at a stage. -/
def Fetch.guard? (f : Fetch V E L) : Stage V E → Option String
  | .lookupAgain => some f.key
  | .load locked => if locked then some f.key else none
  | .loading locked _ _ => if locked then some f.key else none
  | _ => none

/-- The key whose guard a refresh holds at a stage. -/
def Refresh.guard? (r : Refresh V E L) : RefreshStage V E → Option String
  | .load locked => if locked then some r.key else none
  | .loading locked _ _ => if locked then some r.key else none
  | _ => none

/-- How the calls to the locker lie in the transcript of a fetch. -/
theorem FetchTranscript.locking {h : Host S V E L} {f : Fetch V E L}
    {stage : Stage V E} {calls : List (HostCall V E L)}
    (ht : FetchTranscript h f stage calls) :
    Locking f.key (f.guard? stage) calls := by
  have hnever : ∀ {calls : List (HostCall V E L)}, Lockless calls →
      Locking f.key none calls := fun hc => .under (.never hc)
  cases ht with
  | lookup => exact hnever lockless_nil
  | hit result => exact hnever Fetch.lockless_opening
  | lock _ => exact hnever Fetch.lockless_opening
  | lookupAgain =>
    exact .under (.granted Fetch.lockless_opening lockless_nil)
  | @hitAgain first again result found =>
    have hasked : Asked f.key true (f.opening h first
        ++ [.lock f.key true, .get f.key again]) :=
      .granted Fetch.lockless_opening (.cons rfl lockless_nil)
    have hpast := Locking.past hasked .nothing
    rw [List.append_assoc] at hpast
    exact hpast
  | load approach => exact .under approach.asked
  | loading approach pauses result =>
    exact .under (approach.asked.append (.cons rfl lockless_nil))
  | crashed approach c => exact approach.asked.closed rfl lockless_nil
  | recorded approach hr => exact approach.asked.closed rfl hr.lockless
  | unrecorded approach hr => exact approach.asked.closed rfl hr.lockless
  | evicted approach hr hd =>
    exact approach.asked.past rfl hr.lockless hd

/-- How the calls to the locker lie in the transcript of a refresh. -/
theorem RefreshTranscript.locking {h : Host S V E L} {r : Refresh V E L}
    {stage : RefreshStage V E} {calls : List (HostCall V E L)}
    (ht : RefreshTranscript h r stage calls) :
    Locking r.key (r.guard? stage) calls := by
  cases ht with
  | start => exact .under (.never lockless_nil)
  | lock _ => exact .under (.never lockless_nil)
  | refused => exact .under (.refused lockless_nil lockless_nil)
  | load approach => exact .under approach.asked
  | loading approach pauses result =>
    exact .under (approach.asked.append (.cons rfl lockless_nil))
  | crashed approach c => exact approach.asked.closed rfl lockless_nil
  | recorded approach hr => exact approach.asked.closed rfl hr.lockless

/-! ## Guards -/

/-- The guards that are held after a call. -/
def HostCall.guards (held : List String) : HostCall V E L → List String
  | .lock key true => key :: held
  | .release key => held.erase key
  | _ => held

/-- The guards that some calls were granted and have not given back. -/
def guardsOf (calls : List (HostCall V E L)) : List String :=
  calls.foldl HostCall.guards []

/-- The calls to the locker. -/
def lockCalls (calls : List (HostCall V E L)) : List (HostCall V E L) :=
  calls.filter HostCall.isLocking

section Guards

variable {key : String} {locked : Bool} {calls : List (HostCall V E L)}

theorem Lockless.foldl_guards (hc : Lockless calls)
    (held : List String) : calls.foldl HostCall.guards held = held := by
  induction calls with
  | nil => rfl
  | cons c rest ih =>
    have hsplit := List.forall_mem_cons.1 hc
    have hfirst : HostCall.guards held c = held := by
      cases c <;> first | rfl | cases hsplit.1
    rw [List.foldl_cons, hfirst]
    exact ih hsplit.2

theorem Lockless.lockCalls_eq_nil (hc : Lockless calls) :
    lockCalls calls = [] := by
  refine List.filter_eq_nil_iff.2 ?_
  intro c hmem
  rw [hc c hmem]
  exact Bool.false_ne_true

theorem Asked.guardsOf_eq (ha : Asked key locked calls) :
    guardsOf calls = if locked then [key] else [] := by
  unfold guardsOf
  cases ha with
  | never hc => exact hc.foldl_guards []
  | refused hb ha =>
    rw [List.foldl_append, hb.foldl_guards, List.foldl_cons]
    exact ha.foldl_guards []
  | granted hb ha =>
    rw [List.foldl_append, hb.foldl_guards, List.foldl_cons]
    exact ha.foldl_guards [key]

/-- The guards held are the one of the stage. -/
theorem Locking.guardsOf_eq {guard : Option String}
    (hl : Locking key guard calls) : guardsOf calls = guard.toList := by
  cases hl with
  | @under locked _ asked =>
    rw [asked.guardsOf_eq]
    cases locked <;> rfl
  | @past locked calls last asked deleted =>
    have hheld := asked.guardsOf_eq
    unfold guardsOf at hheld ⊢
    rw [List.foldl_append, hheld, List.foldl_append,
      deleted.lockless.foldl_guards]
    cases locked with
    | false => rfl
    | true =>
      show [key].erase key = []
      exact List.erase_cons_head ..

theorem lockCalls_append (xs ys : List (HostCall V E L)) :
    lockCalls (xs ++ ys) = lockCalls xs ++ lockCalls ys :=
  List.filter_append ..

theorem lockCalls_cons_lock (granted : Bool)
    (xs : List (HostCall V E L)) :
    lockCalls (.lock key granted :: xs)
      = .lock key granted :: lockCalls xs :=
  rfl

theorem lockCalls_released :
    lockCalls (released locked key : List (HostCall V E L))
      = released locked key := by
  cases locked <;> rfl

theorem Asked.lockCalls_eq (ha : Asked key locked calls) :
    locked = false ∧ lockCalls calls = []
      ∨ lockCalls calls = [.lock key locked] := by
  cases ha with
  | never hc => exact .inl ⟨rfl, hc.lockCalls_eq_nil⟩
  | refused hb ha =>
    rw [lockCalls_append, hb.lockCalls_eq_nil, lockCalls_cons_lock,
      ha.lockCalls_eq_nil]
    exact .inr rfl
  | granted hb ha =>
    rw [lockCalls_append, hb.lockCalls_eq_nil, lockCalls_cons_lock,
      ha.lockCalls_eq_nil]
    exact .inr rfl

/-- Where no guard is held, a lock was not asked for, or refused, or given
back once. -/
theorem Locking.lockCalls_eq (hl : Locking key none calls) :
    lockCalls calls = [] ∨ lockCalls calls = [.lock key false]
      ∨ lockCalls calls = [.lock key true, .release key] := by
  generalize hguard : (none : Option String) = guard at hl
  cases hl with
  | @under locked _ asked =>
    cases locked with
    | true => cases hguard
    | false =>
      rcases asked.lockCalls_eq with ⟨_, hnil⟩ | hone
      · exact .inl hnil
      · exact .inr (.inl hone)
  | @past locked calls last asked deleted =>
    rw [lockCalls_append, lockCalls_append, lockCalls_released,
      deleted.lockless.lockCalls_eq_nil, List.append_nil]
    rcases asked.lockCalls_eq with ⟨rfl, hnil⟩ | hone
    · rw [hnil]
      exact .inl rfl
    · rw [hone]
      cases locked with
      | false => exact .inr (.inl rfl)
      | true => exact .inr (.inr rfl)

theorem Asked.eq_of_mem (ha : Asked key locked calls) {other : String}
    (hmem : .lock other true ∈ calls) : locked = true ∧ other = key := by
  cases ha with
  | never hc => exact absurd hmem hc.lock_notMem
  | refused hb ha =>
    rcases List.mem_append.1 hmem with hmem | hmem
    · exact absurd hmem hb.lock_notMem
    · rcases List.mem_cons.1 hmem with heq | hmem
      · cases heq
      · exact absurd hmem ha.lock_notMem
  | granted hb ha =>
    rcases List.mem_append.1 hmem with hmem | hmem
    · exact absurd hmem hb.lock_notMem
    · rcases List.mem_cons.1 hmem with heq | hmem
      · cases heq
        exact ⟨rfl, rfl⟩
      · exact absurd hmem ha.lock_notMem

/-- The guard that is held is the one that was granted. -/
theorem Locking.eq_of_mem {guard other : String}
    (hl : Locking key (some guard) calls)
    (hmem : .lock other true ∈ calls) : other = guard := by
  generalize hguard : some guard = held at hl
  cases hl with
  | under asked =>
    obtain ⟨rfl, rfl⟩ := asked.eq_of_mem hmem
    exact (Option.some.inj hguard).symm
  | past _ _ => cases hguard

/-- What was stored under a lock was stored before the lock was given
back. -/
theorem Locking.release_mem (hl : Locking key none calls)
    {first last : List (HostCall V E L)} {c : HostCall V E L}
    (hcalls : calls = first ++ c :: last) (hstored : c.stored?.isSome)
    {other : String} (hgranted : .lock other true ∈ first) :
    .release other ∈ last := by
  have hmem : .lock other true ∈ calls := by
    rw [hcalls]
    exact List.mem_append_left _ hgranted
  generalize hguard : (none : Option String) = guard at hl
  cases hl with
  | @under locked _ asked =>
    obtain ⟨rfl, _⟩ := asked.eq_of_mem hmem
    cases hguard
  | @past locked before after asked deleted =>
    have hafter : ∀ {x : HostCall V E L},
        x ∈ released locked key ++ after → x.stored? = none := by
      intro x hx
      rcases List.mem_append.1 hx with hx | hx
      · cases locked with
        | false => cases hx
        | true =>
          rw [List.mem_singleton.1 hx]
          rfl
      · cases deleted with
        | nothing => cases hx
        | batch keys answer =>
          rw [List.mem_singleton.1 hx]
          rfl
    have hbefore : .lock other true ∈ before := by
      rcases List.mem_append.1 hmem with hmem | hmem
      · exact hmem
      · rcases List.mem_append.1 hmem with hmem | hmem
        · cases locked with
          | false => cases hmem
          | true => cases List.mem_singleton.1 hmem
        · exact absurd hmem deleted.lockless.lock_notMem
    obtain ⟨rfl, rfl⟩ := asked.eq_of_mem hbefore
    rcases List.append_eq_append_iff.1 hcalls with
      ⟨rest, hfirst, hrest⟩ | ⟨rest, hbefore', hrest⟩
    · have hc : c ∈ released true other ++ after := by
        rw [hrest]
        exact List.mem_append_right _ List.mem_cons_self
      rw [hafter hc] at hstored
      cases hstored
    · have hrel : .release other ∈ c :: last := by
        rw [hrest]
        exact List.mem_append_right _ List.mem_cons_self
      rcases List.mem_cons.1 hrel with rfl | hrel
      · cases hstored
      · exact hrel

end Guards

/-! ## Moves -/

/-- What the calls of one move do with the guard of a key. -/
inductive Handling (key : String) :
    Option String → List (HostCall V E L) → Option String → Prop where
  | nothing {guard : Option String} {calls : List (HostCall V E L)}
      (hc : Lockless calls) : Handling key guard calls guard
  | refused : Handling key none [.lock key false] none
  | granted : Handling key none [.lock key true] (some key)
  | returned {calls : List (HostCall V E L)} (hc : Lockless calls) :
    Handling key (some key) (calls ++ [.release key]) none

/-- Giving a lock back after other calls, if it was granted. -/
theorem Handling.of_released {key : String} {locked : Bool}
    {calls : List (HostCall V E L)} (hc : Lockless calls) :
    Handling key (if locked then some key else none)
      (calls ++ released locked key) none := by
  cases locked with
  | true => exact .returned hc
  | false =>
    rw [show (released false key : List (HostCall V E L)) = [] from rfl,
      List.append_nil]
    exact .nothing hc

/-- A move in which a lock is granted makes no other call. -/
theorem Handling.eq_of_mem {key other : String} {guard next : Option String}
    {calls : List (HostCall V E L)} (hh : Handling key guard calls next)
    (hmem : .lock other true ∈ calls) : calls = [.lock other true] := by
  cases hh with
  | nothing hc => exact absurd hmem hc.lock_notMem
  | refused => cases List.mem_singleton.1 hmem
  | granted =>
    cases List.mem_singleton.1 hmem
    rfl
  | returned hc =>
    rcases List.mem_append.1 hmem with hmem | hmem
    · exact absurd hmem hc.lock_notMem
    · cases List.mem_singleton.1 hmem

theorem FetchMove.handling {h : Host S V E L} {f : Fetch V E L}
    {stage next : Stage V E} {calls : List (HostCall V E L)}
    (hmove : FetchMove h f stage next calls) :
    Handling f.key (f.guard? stage) calls (f.guard? next) := by
  cases hmove with
  | found _ => exact .nothing Fetch.lockless_opening
  | missed _ =>
    have hnone : f.guard? (Layer.afterMiss h) = none := by
      rw [Layer.afterMiss]
      split <;> rfl
    rw [hnone]
    exact .nothing Fetch.lockless_opening
  | granted => exact .granted
  | refused => exact .refused
  | lockless _ => exact .nothing lockless_nil
  | foundAgain _ => exact .returned (.cons rfl lockless_nil)
  | missedAgain _ => exact .nothing (.cons rfl lockless_nil)
  | loaded locked result => exact .nothing (.cons rfl lockless_nil)
  | crashed locked c => exact .of_released (.cons rfl lockless_nil)
  | paused locked n result => exact .nothing lockless_nil
  | recorded locked hr => exact .of_released hr.lockless
  | unrecorded locked hr => exact .of_released hr.lockless
  | evicted hd => exact .nothing hd.lockless
  | done result => exact .nothing lockless_nil
  | ended c => exact .nothing lockless_nil

theorem RefreshMove.handling {h : Host S V E L} {r : Refresh V E L}
    {stage next : RefreshStage V E} {calls : List (HostCall V E L)}
    (hmove : RefreshMove h r stage next calls) :
    Handling r.key (r.guard? stage) calls (r.guard? next) := by
  cases hmove with
  | lockable _ => exact .nothing lockless_nil
  | unlockable _ => exact .nothing lockless_nil
  | granted => exact .granted
  | refused => exact .refused
  | lockless _ => exact .nothing lockless_nil
  | loaded locked result => exact .nothing (.cons rfl lockless_nil)
  | crashed locked c => exact .of_released (.cons rfl lockless_nil)
  | paused locked n result => exact .nothing lockless_nil
  | recorded locked hr => exact .of_released hr.lockless
  | ended => exact .nothing lockless_nil

/-! ## Looking up under a lock -/

/-- Whether a call is a look-up or asks for a lock. -/
def HostCall.isAsking : HostCall V E L → Bool
  | .get _ _ => true
  | .lock _ _ => true
  | _ => false

/-- Calls without a look-up that do not ask for a lock. -/
def Blind (calls : List (HostCall V E L)) : Prop :=
  ∀ c ∈ calls, c.isAsking = false

section Blind

variable {calls more before after : List (HostCall V E L)}
  {key other : String} {locked : Bool}
  {answer : Except BackendError (Option Entry)}

theorem Blind.append (hc : Blind calls) (hm : Blind more) :
    Blind (calls ++ more) :=
  List.forall_mem_append.2 ⟨hc, hm⟩

theorem Blind.cons {c : HostCall V E L} (hc : c.isAsking = false)
    (hm : Blind more) : Blind (c :: more) :=
  List.forall_mem_cons.2 ⟨hc, hm⟩

theorem blind_nil : Blind ([] : List (HostCall V E L)) :=
  List.forall_mem_nil _

theorem blind_released :
    Blind (released locked key : List (HostCall V E L)) := by
  cases locked with
  | false => exact blind_nil
  | true => exact .cons rfl blind_nil

theorem Deleted.blind (hd : Deleted calls) : Blind calls := by
  cases hd with
  | nothing => exact blind_nil
  | batch keys answer => exact .cons rfl blind_nil

theorem Recorded.blind {settings : CacheSettings} {wb : WriteBack}
    {outcome : Except Crash Unit}
    (hr : Recorded settings key wb outcome calls) : Blind calls := by
  intro c hc
  rcases hr.mem_cases hc with ⟨_, rfl⟩ | ⟨_, _, _, rfl⟩ | ⟨_, _, _, rfl⟩
  all_goals rfl

theorem Blind.lock_notMem {granted : Bool} (hb : Blind calls) :
    .lock key granted ∉ calls := by
  intro hmem
  have := hb _ hmem
  cases this

/-- What follows a lock that was granted. -/
theorem eq_of_append_lock (hb : Lockless before)
    (hlock : ∀ key granted, .lock key granted ∉ after)
    {first last : List (HostCall V E L)}
    (heq : before ++ .lock key true :: after
      = first ++ .lock other true :: last) : last = after := by
  have hinj := (List.append_cons_inj_of_notMem hb.lock_notMem
    (hlock other true)).1 heq
  exact hinj.2.2.symm

/-- A look-up behind a lock that was granted to a loading fetch has found
nothing. -/
theorem Approach.missed {h : Host S V E L} {f : Fetch V E L}
    (ha : Approach h f locked calls) (hmore : Blind more)
    (heq : calls ++ more = before ++ .lock key true :: after)
    (hget : .get other answer ∈ after) :
    f.codec.found? answer = none := by
  have hmem : .lock key true ∈ calls ++ more := by
    rw [heq]
    exact List.mem_append_right _ List.mem_cons_self
  have hcalls : .lock key true ∈ calls := by
    rcases List.mem_append.1 hmem with hmem | hmem
    · exact hmem
    · exact absurd hmem hmore.lock_notMem
  cases ha with
  | unlocked _ => exact absurd hcalls Fetch.lockless_opening.lock_notMem
  | refused =>
    rcases List.mem_append.1 hcalls with hopening | hrefused
    · exact absurd hopening Fetch.lockless_opening.lock_notMem
    · cases List.mem_singleton.1 hrefused
  | @granted first again missed =>
    rw [List.append_assoc] at heq
    have hafter : after = .get f.key again :: more := by
      refine eq_of_append_lock Fetch.lockless_opening ?_ heq
      intro other granted hin
      rcases List.mem_cons.1 hin with hin | hin
      · cases hin
      · exact hmore.lock_notMem hin
    rw [hafter] at hget
    rcases List.mem_cons.1 hget with hget | hget
    · cases hget
      exact missed
    · have := hmore _ hget
      cases this

/-- Once a look-up under a lock has found a result, the fetch is done with
it and has loaded nothing. -/
theorem FetchTranscript.reread {h : Host S V E L} {f : Fetch V E L}
    {stage : Stage V E} {result : Except E V}
    (ht : FetchTranscript h f stage calls)
    (hcalls : calls = before ++ .lock key true :: after)
    (hget : .get other answer ∈ after)
    (hfound : f.codec.found? answer = some result) :
    stage = .done result ∧ ∀ loader outcome,
      .load loader outcome ∉ calls := by
  have hnone : ∀ {locked : Bool} {calls more : List (HostCall V E L)},
      Approach h f locked calls → Blind more →
      ¬ calls ++ more = before ++ .lock key true :: after := by
    intro locked calls more ha hmore heq
    rw [ha.missed hmore heq hget] at hfound
    cases hfound
  have hlockless : Lockless calls → False := by
    intro hl
    have hmem : .lock key true ∈ calls := by
      rw [hcalls]
      exact List.mem_append_right _ List.mem_cons_self
    exact hl.lock_notMem hmem
  cases ht with
  | lookup => exact absurd lockless_nil hlockless
  | hit result => exact absurd Fetch.lockless_opening hlockless
  | lock _ => exact absurd Fetch.lockless_opening hlockless
  | lookupAgain =>
    have hafter := eq_of_append_lock Fetch.lockless_opening
      (fun _ _ => List.not_mem_nil) hcalls
    rw [hafter] at hget
    cases hget
  | @hitAgain first again result found =>
    have hafter : after = [.get f.key again, .release f.key] := by
      refine eq_of_append_lock Fetch.lockless_opening ?_ hcalls
      intro other granted hin
      rcases List.mem_cons.1 hin with hin | hin
      · cases hin
      · cases List.mem_singleton.1 hin
    rw [hafter] at hget
    rcases List.mem_cons.1 hget with hget | hget
    · cases hget
      rw [found] at hfound
      cases hfound
      refine ⟨rfl, ?_⟩
      intro loader outcome hload
      rcases List.mem_append.1 hload with hload | hload
      · rcases Fetch.mem_opening_cases hload with hload | ⟨_, hload⟩
        all_goals cases hload
      · simp at hload
    · cases List.mem_singleton.1 hget
  | load approach =>
    rw [← List.append_nil calls] at hcalls
    exact absurd hcalls (hnone approach blind_nil)
  | loading approach pauses result =>
    exact absurd hcalls (hnone approach (.cons rfl blind_nil))
  | crashed approach c =>
    exact absurd hcalls (hnone approach (.cons rfl blind_released))
  | recorded approach hr =>
    exact absurd hcalls (hnone approach
      (.cons rfl (hr.blind.append blind_released)))
  | unrecorded approach hr =>
    exact absurd hcalls (hnone approach
      (.cons rfl (hr.blind.append blind_released)))
  | evicted approach hr hd =>
    rw [List.append_assoc] at hcalls
    exact absurd hcalls (hnone approach
      ((Blind.cons rfl (hr.blind.append blind_released)).append hd.blind))

end Blind

end PolicyWeave
