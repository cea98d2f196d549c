import PolicyWeave.Cache.Schedule
import PolicyWeave.Proofs.Cache.Protocol

/-!
# The moves of calls and refreshes

What one step of a fetch or of a refresh can do: where it leads, and the
calls it makes.

There are four groups.

* `Evicted` are the calls of an eviction: at most one, a delete of the
  whole batch.  It leaves the result alone.
* `Reloaded` and `RefreshExchange` are the calls of a refresh that is run
  to its end.
* `RefreshMove` has one constructor for each way a refresh can step, and
  `makes_stepRefresh` says that there are no others.
* `FetchMove` and `makes_step` are the same for a fetch.
-/

namespace PolicyWeave

variable {S V E L : Type}

/-! ## Evicting -/

/-- The batch that is deleted behind a result: all keys, if there are any
and the result is a success. -/
def batchOf (keys : List String) : Except E V → Option (List String)
  | .ok _ => if keys = [] then none else some keys
  | .error _ => none

/-- The batch that is deleted behind a fetch.  There is none unless the
result was loaded. -/
def Fetch.evictionOf (f : Fetch V E L) :
    Except Crash (Except E V × Origin) → Option (List String)
  | .ok (result, .loaded) =>
    f.evicts.bind fun keys => batchOf keys result
  | .ok (_, .cached) => none
  | .error _ => none

/-- The calls that delete a batch, if there is one. -/
inductive Evicted : Option (List String) → List (HostCall V E L) → Prop
    where
  | nothing : Evicted none []
  | batch (keys : List String) (answer : Except BackendError Unit) :
    Evicted (some keys) [.delete keys answer]

/-- At most one call, which deletes keys. -/
inductive Deleted : List (HostCall V E L) → Prop where
  | nothing : Deleted []
  | batch (keys : List String) (answer : Except BackendError Unit) :
    Deleted [.delete keys answer]

theorem Evicted.deleted {batch : Option (List String)}
    {calls : List (HostCall V E L)} (he : Evicted batch calls) :
    Deleted calls := by
  cases he with
  | nothing => exact .nothing
  | batch keys answer => exact .batch keys answer

namespace Layer

variable (h : Host S V E L)

/-- Evicting a batch deletes all of it, unless it is empty. -/
theorem makes_evictKeys (method : String) (keys : List String) :
    Makes h (evictKeys h method keys) fun _ calls =>
      Evicted (if keys = [] then none else some keys) calls := by
  unfold evictKeys
  by_cases hkeys : keys = []
  · rw [if_pos (List.isEmpty_iff.2 hkeys), if_pos hkeys]
    exact Makes.pure .nothing
  · rw [if_neg (mt List.isEmpty_iff.1 hkeys), if_neg hkeys]
    refine Makes.bindCall (Makes.delete fun _ => rfl) ?_
    intro answer
    cases answer with
    | error e => exact Makes.pure (.batch keys _)
    | ok _ =>
      refine Makes.afterReport ?_
      exact Makes.pure (.batch keys _)

/-- Evicting behind a call leaves its result alone. -/
theorem makes_evictOnSuccess (method : String) (keys : List String)
    (result : Except E V) :
    Makes h (evictOnSuccess h method keys result) fun handed calls =>
      handed = result ∧ Evicted (batchOf keys result) calls := by
  unfold evictOnSuccess
  cases result with
  | error e => exact Makes.pure ⟨rfl, .nothing⟩
  | ok value =>
    refine Makes.bind (makes_evictKeys h method keys) ?_
    intro answer calls hevicted
    cases answer with
    | ok _ =>
      refine Makes.pure ?_
      rw [List.append_nil]
      exact ⟨rfl, hevicted⟩
    | error e =>
      refine Makes.afterReport ?_
      refine Makes.pure ?_
      rw [List.append_nil]
      exact ⟨rfl, hevicted⟩

/-- The eviction behind a fetch leaves its result alone. -/
theorem makes_evictAfter (f : Fetch V E L) (origin : Origin)
    (result : Except E V) :
    Makes h (evictAfter h f origin result) fun handed calls =>
      handed = result ∧ Evicted (f.evictionOf (.ok (result, origin))) calls := by
  unfold evictAfter Fetch.evictionOf
  cases origin with
  | cached => cases f.evicts <;> exact Makes.pure ⟨rfl, .nothing⟩
  | loaded =>
    cases f.evicts with
    | none => exact Makes.pure ⟨rfl, .nothing⟩
    | some keys =>
      exact makes_evictOnSuccess h f.settings.method keys result

/-- A fetch has its conversation, and then at most a delete. -/
theorem makes_fetch (f : Fetch V E L) :
    Makes h (fetch h f).settled fun outcome calls =>
      ∃ populated first last, Exchange h f populated first
        ∧ Evicted (f.evictionOf populated) last ∧ calls = first ++ last
        ∧ outcome = populated.map Prod.fst := by
  unfold fetch
  refine Makes.actBind (makes_populate h f) ?_ ?_
  · intro c calls hex
    exact ⟨.error c, calls, [], hex, .nothing,
      (List.append_nil _).symm, rfl⟩
  · intro answer calls hex
    refine Makes.map ((makes_evictAfter h f answer.2 answer.1).imp ?_)
    intro handed more hcalls
    obtain ⟨rfl, hevicted⟩ := hcalls
    exact ⟨.ok answer, calls, more, hex, hevicted, rfl, rfl⟩

end Layer

/-! ## Refreshes run to their end -/

/-- What a refresh records about a result: the value, if the loader has
one. -/
def Codec.freshen (codec : Codec V E) : Except E V → WriteBack
  | .ok value => codec.writeBack (.ok value)
  | .error _ => .skip

/-- The calls that load a result for a refresh and record it. -/
inductive Reloaded (r : Refresh V E L) :
    Except Crash Unit → List (HostCall V E L) → Prop where
  | recorded {result : Except E V} {outcome : Except Crash Unit}
      {calls : List (HostCall V E L)}
      (recorded : Recorded r.settings r.key (r.codec.freshen result)
        outcome calls) :
    Reloaded r outcome (.load r.loader (.ok result) :: calls)
  | crashed (c : Crash) :
    Reloaded r (.error c) [.load r.loader (.error c)]

/-- The conversation of a refresh with its host.  A refresh whose key is
locked ends at once. -/
inductive RefreshExchange (h : Host S V E L) (r : Refresh V E L) :
    Except Crash Unit → List (HostCall V E L) → Prop where
  | unlocked {outcome : Except Crash Unit} {calls : List (HostCall V E L)}
      (unlockable : h.lock? = none) (reloaded : Reloaded r outcome calls) :
    RefreshExchange h r outcome calls
  | refused (lockable : h.lock?.isSome) :
    RefreshExchange h r (.ok ()) [.lock r.key false]
  | locked {outcome : Except Crash Unit} {calls : List (HostCall V E L)}
      (lockable : h.lock?.isSome) (reloaded : Reloaded r outcome calls) :
    RefreshExchange h r outcome
      (.lock r.key true :: calls ++ [.release r.key])

namespace Layer

variable (h : Host S V E L)

/-- A refresh asks the locker, if there is one, for its key. -/
theorem makes_acquireFor (r : Refresh V E L) :
    Makes h (acquireFor h r) fun granted calls =>
      h.lock? = none ∧ granted = false ∧ calls = []
        ∨ h.lock?.isSome ∧ calls = [.lock r.key granted] :=
  makes_lockOr h r.key _

/-- Recording what a refresh has loaded. -/
theorem makes_recordRefresh (r : Refresh V E L) (result : Except E V) :
    Makes h (recordRefresh h r result).settled
      (Recorded r.settings r.key (r.codec.freshen result)) := by
  cases result with
  | ok value =>
    refine Makes.safeBind
      (makes_encodeValue h r.codec r.settings r.key value) ?_
    intro wb calls hcalls
    obtain ⟨rfl, rfl⟩ := hcalls
    exact makes_write h r.settings r.key _
  | error e =>
    refine Makes.safeBind (P := fun _ calls => calls = [])
      (Makes.report rfl) ?_
    intro _ calls hcalls
    subst hcalls
    exact makes_write h r.settings r.key .skip

/-- Loading and recording. -/
theorem makes_reload (r : Refresh V E L) :
    Makes h (reload h r).settled (Reloaded r) := by
  unfold reload
  refine Makes.actBind (P := fun answer calls =>
    calls = [.load r.loader answer]) (Makes.load fun _ => rfl) ?_ ?_
  · intro c calls hcalls
    subst hcalls
    exact .crashed c
  · intro result calls hcalls
    subst hcalls
    refine (makes_recordRefresh h r result).imp ?_
    intro outcome calls hr
    exact .recorded hr

/-- Every refresh has a conversation with its host, whatever the host
answers. -/
theorem makes_refresh (r : Refresh V E L) :
    Makes h (refresh h r).settled (RefreshExchange h r) := by
  unfold refresh
  cases hl : h.lock? with
  | none =>
    refine (makes_reload h r).imp ?_
    intro outcome calls hr
    exact .unlocked hl hr
  | some lock =>
    have hsome : h.lock?.isSome := by
      rw [hl]
      rfl
    refine Makes.safeBind (makes_acquireFor h r) ?_
    intro granted calls hcalls
    rcases hcalls with ⟨hnone, _⟩ | ⟨_, rfl⟩
    · rw [hl] at hnone
      cases hnone
    · cases granted with
      | false => exact Makes.pure (.refused hsome)
      | true =>
        refine Makes.thenAlways (makes_reload h r) ?_
        intro outcome calls hr
        exact Makes.release (.locked hsome hr)

end Layer

/-! ## Steps of a refresh -/

/-- The call that gives a lock back, if it was granted. -/
def released (locked : Bool) (key : String) : List (HostCall V E L) :=
  if locked then [.release key] else []

/-- A step of a refresh with the calls it makes. -/
inductive RefreshMove (h : Host S V E L) (r : Refresh V E L) :
    RefreshStage V E → RefreshStage V E → List (HostCall V E L) →
      Prop where
  | lockable (hl : h.lock?.isSome) : RefreshMove h r .start .lock []
  | unlockable (hl : h.lock? = none) :
    RefreshMove h r .start (.load false) []
  | granted : RefreshMove h r .lock (.load true) [.lock r.key true]
  | refused : RefreshMove h r .lock .ended [.lock r.key false]
  | lockless (hl : h.lock? = none) : RefreshMove h r .lock .ended []
  | loaded (locked : Bool) (result : Except E V) :
    RefreshMove h r (.load locked)
      (.loading locked (h.pauses r.loader) result)
      [.load r.loader (.ok result)]
  | crashed (locked : Bool) (c : Crash) :
    RefreshMove h r (.load locked) .ended
      (.load r.loader (.error c) :: released locked r.key)
  | paused (locked : Bool) (n : Nat) (result : Except E V) :
    RefreshMove h r (.loading locked (n + 1) result)
      (.loading locked n result) []
  | recorded (locked : Bool) {result : Except E V}
      {outcome : Except Crash Unit} {calls : List (HostCall V E L)}
      (recorded : Recorded r.settings r.key (r.codec.freshen result)
        outcome calls) :
    RefreshMove h r (.loading locked 0 result) .ended
      (calls ++ released locked r.key)
  | ended : RefreshMove h r .ended .ended []

namespace Layer

variable (h : Host S V E L)

/-- Giving a lock back makes a call if it was granted. -/
theorem makes_releaseIf (locked : Bool) (key : String) :
    Makes h (releaseIf h locked key) fun _ calls =>
      calls = released locked key := by
  cases locked with
  | true => exact Makes.release rfl
  | false => exact Makes.pure rfl

/-- A refresh steps in no other way. -/
theorem makes_stepRefresh (r : Refresh V E L) (stage : RefreshStage V E) :
    Makes h (stepRefresh h r stage) (RefreshMove h r stage) := by
  cases stage with
  | start =>
    refine Makes.pure ?_
    cases hl : h.lock? with
    | none => exact .unlockable hl
    | some lock =>
      refine .lockable ?_
      rw [hl]
      rfl
  | lock =>
    refine Makes.bind (makes_acquireFor h r) ?_
    intro granted calls hcalls
    rcases hcalls with ⟨hnone, rfl, rfl⟩ | ⟨_, rfl⟩
    · exact Makes.pure (.lockless hnone)
    · cases granted with
      | true => exact Makes.pure .granted
      | false => exact Makes.pure .refused
  | load locked =>
    refine Makes.bindCall (Makes.load fun _ => rfl) ?_
    intro answer
    cases answer with
    | ok result => exact Makes.pure (.loaded locked result)
    | error c =>
      refine Makes.bind (makes_releaseIf h locked r.key) ?_
      intro _ calls hcalls
      subst hcalls
      refine Makes.pure ?_
      rw [List.append_nil]
      exact .crashed locked c
  | loading locked pauses result =>
    cases pauses with
    | succ n => exact Makes.pure (.paused locked n result)
    | zero =>
      refine Makes.bind (makes_recordRefresh h r result) ?_
      intro outcome calls hr
      refine Makes.bind (makes_releaseIf h locked r.key) ?_
      intro _ more hcalls
      subst hcalls
      refine Makes.pure ?_
      rw [List.append_nil]
      exact .recorded locked hr
  | ended => exact Makes.pure .ended

end Layer

/-! ## Steps of a fetch -/

/-- A step of a fetch with the calls it makes. -/
inductive FetchMove (h : Host S V E L) (f : Fetch V E L) :
    Stage V E → Stage V E → List (HostCall V E L) → Prop where
  | found {first : Except BackendError (Option Entry)}
      {result : Except E V} (found : f.codec.found? first = some result) :
    FetchMove h f .lookup (.done result)
      (.get f.key first :: f.offers h first)
  | missed {first : Except BackendError (Option Entry)}
      (missed : f.codec.found? first = none) :
    FetchMove h f .lookup (Layer.afterMiss h)
      (.get f.key first :: f.offers h first)
  | granted : FetchMove h f .lock .lookupAgain [.lock f.key true]
  | refused : FetchMove h f .lock (.load false) [.lock f.key false]
  | lockless (hl : h.lock? = none) : FetchMove h f .lock (.load false) []
  | foundAgain {again : Except BackendError (Option Entry)}
      {result : Except E V} (found : f.codec.found? again = some result) :
    FetchMove h f .lookupAgain (.done result)
      [.get f.key again, .release f.key]
  | missedAgain {again : Except BackendError (Option Entry)}
      (missed : f.codec.found? again = none) :
    FetchMove h f .lookupAgain (.load true) [.get f.key again]
  | loaded (locked : Bool) (result : Except E V) :
    FetchMove h f (.load locked)
      (.loading locked (h.pauses f.loader) result)
      [.load f.loader (.ok result)]
  | crashed (locked : Bool) (c : Crash) :
    FetchMove h f (.load locked) (.crashed c)
      (.load f.loader (.error c) :: released locked f.key)
  | paused (locked : Bool) (n : Nat) (result : Except E V) :
    FetchMove h f (.loading locked (n + 1) result)
      (.loading locked n result) []
  | recorded (locked : Bool) {result : Except E V}
      {calls : List (HostCall V E L)}
      (recorded : Recorded f.settings f.key (f.codec.writeBack result)
        (.ok ()) calls) :
    FetchMove h f (.loading locked 0 result) (.evict result)
      (calls ++ released locked f.key)
  | unrecorded (locked : Bool) {result : Except E V} {c : Crash}
      {calls : List (HostCall V E L)}
      (recorded : Recorded f.settings f.key (f.codec.writeBack result)
        (.error c) calls) :
    FetchMove h f (.loading locked 0 result) (.crashed c)
      (calls ++ released locked f.key)
  | evicted {result : Except E V} {calls : List (HostCall V E L)}
      (deleted : Deleted calls) :
    FetchMove h f (.evict result) (.done result) calls
  | done (result : Except E V) :
    FetchMove h f (.done result) (.done result) []
  | ended (c : Crash) : FetchMove h f (.crashed c) (.crashed c) []

namespace Layer

variable (h : Host S V E L)

/-- A fetch steps in no other way. -/
theorem makes_step (f : Fetch V E L) (stage : Stage V E) :
    Makes h (step h f stage) (FetchMove h f stage) := by
  cases stage with
  | lookup =>
    refine Makes.bind (makes_lookup h f) ?_
    intro found calls hcalls
    obtain ⟨first, rfl, rfl⟩ := hcalls
    cases hf : f.codec.found? first with
    | some result =>
      refine Makes.pure ?_
      rw [List.append_nil]
      exact .found hf
    | none =>
      refine Makes.pure ?_
      rw [List.append_nil]
      exact .missed hf
  | lock =>
    refine Makes.bind (makes_acquire h f) ?_
    intro granted calls hcalls
    rcases hcalls with ⟨hnone, rfl, rfl⟩ | ⟨_, rfl⟩
    · exact Makes.pure (.lockless hnone)
    · cases granted with
      | true => exact Makes.pure .granted
      | false => exact Makes.pure .refused
  | lookupAgain =>
    refine Makes.bind (makes_lookupAgain h f) ?_
    intro found calls hcalls
    obtain ⟨again, rfl, rfl⟩ := hcalls
    cases hf : f.codec.found? again with
    | some result =>
      refine Makes.bindCall (c := fun _ => .release f.key)
        (Makes.release rfl) ?_
      intro _
      exact Makes.pure (.foundAgain hf)
    | none => exact Makes.pure (.missedAgain hf)
  | load locked =>
    refine Makes.bindCall (Makes.load fun _ => rfl) ?_
    intro answer
    cases answer with
    | ok result => exact Makes.pure (.loaded locked result)
    | error c =>
      refine Makes.bind (makes_releaseIf h locked f.key) ?_
      intro _ calls hcalls
      subst hcalls
      refine Makes.pure ?_
      rw [List.append_nil]
      exact .crashed locked c
  | loading locked pauses result =>
    cases pauses with
    | succ n => exact Makes.pure (.paused locked n result)
    | zero =>
      refine Makes.bind (makes_record h f result) ?_
      intro outcome calls hr
      refine Makes.bind (makes_releaseIf h locked f.key) ?_
      intro _ more hcalls
      subst hcalls
      cases outcome with
      | ok _ =>
        refine Makes.pure ?_
        rw [List.append_nil]
        exact .recorded locked hr
      | error c =>
        refine Makes.pure ?_
        rw [List.append_nil]
        exact .unrecorded locked hr
  | evict result =>
    refine Makes.bind (makes_evictAfter h f .loaded result) ?_
    intro handed calls hcalls
    obtain ⟨rfl, hdeleted⟩ := hcalls
    refine Makes.pure ?_
    rw [List.append_nil]
    exact .evicted hdeleted.deleted
  | done result => exact Makes.pure (.done result)
  | crashed c => exact Makes.pure (.ended c)

end Layer

end PolicyWeave
