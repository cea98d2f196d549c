import PolicyWeave.Proofs.Cache.Moves

/-!
# Transcripts

The calls that a fetch or a refresh has made so far, for each stage that
it may stand at.

There are two groups.

* `FetchTranscript` gives the calls of a fetch in full.  Every move of a
  fetch continues its transcript.  `Served` and `Approach` are its parts,
  and those of a fetch that is run to its end.
* `RefreshTranscript` is the same for a refresh.
-/

namespace PolicyWeave

variable {S V E L : Type}

/-! ## Fetches -/

/-- The calls of a first look-up. -/
def Fetch.opening (f : Fetch V E L) (h : Host S V E L)
    (first : Except BackendError (Option Entry)) :
    List (HostCall V E L) :=
  .get f.key first :: f.offers h first

/-- The calls of a fetch up to its loader, with a lock or without. -/
inductive Approach (h : Host S V E L) (f : Fetch V E L) :
    Bool → List (HostCall V E L) → Prop where
  | unlocked {first : Except BackendError (Option Entry)}
      (unlockable : h.lock? = none) : Approach h f false (f.opening h first)
  | refused {first : Except BackendError (Option Entry)} :
    Approach h f false (f.opening h first ++ [.lock f.key false])
  | granted {first again : Except BackendError (Option Entry)}
      (missed : f.codec.found? again = none) :
    Approach h f true
      (f.opening h first ++ [.lock f.key true, .get f.key again])

/-- The calls of a fetch that a look-up has served. -/
inductive Served (h : Host S V E L) (f : Fetch V E L)
    (result : Except E V) : List (HostCall V E L) → Prop where
  | hit {first : Except BackendError (Option Entry)}
      (found : f.codec.found? first = some result) :
    Served h f result (f.opening h first)
  | hitAgain {first again : Except BackendError (Option Entry)}
      (found : f.codec.found? again = some result) :
    Served h f result
      (f.opening h first
        ++ [.lock f.key true, .get f.key again, .release f.key])

/-- A fetch is served by a look-up, or it approaches its loader, loads
and gives back its lock. -/
theorem Exchange.served_or_loaded {h : Host S V E L} {f : Fetch V E L}
    {outcome : Except Crash (Except E V × Origin)}
    {calls : List (HostCall V E L)} (hex : Exchange h f outcome calls) :
    (∃ result, Served h f result calls
        ∧ outcome = .ok (result, .cached))
      ∨ ∃ locked before more loaded, Approach h f locked before
        ∧ Loaded f loaded more
        ∧ calls = before ++ more ++ released locked f.key
        ∧ outcome = loaded.map (·, .loaded) := by
  cases hex with
  | hit found => exact .inl ⟨_, .hit found, rfl⟩
  | hitAgain _ _ found => exact .inl ⟨_, .hitAgain found, rfl⟩
  | @unlocked first outcome more _ hl loaded =>
    have happroach : Approach h f false (f.opening h first) := .unlocked hl
    refine .inr ⟨false, _, more, _, happroach, loaded, ?_, rfl⟩
    simp [Fetch.opening, released]
  | @refused first outcome more _ _ loaded =>
    have happroach : Approach h f false
        (f.opening h first ++ [.lock f.key false]) := .refused
    refine .inr ⟨false, _, more, _, happroach, loaded, ?_, rfl⟩
    simp [Fetch.opening, released]
  | @locked first again outcome more _ _ missedAgain loaded =>
    have happroach : Approach h f true (f.opening h first
        ++ [.lock f.key true, .get f.key again]) := .granted missedAgain
    refine .inr ⟨true, _, more, _, happroach, loaded, ?_, rfl⟩
    simp [Fetch.opening, released]

/-- The calls that a fetch has made when it stands at a stage. -/
inductive FetchTranscript (h : Host S V E L) (f : Fetch V E L) :
    Stage V E → List (HostCall V E L) → Prop where
  | lookup : FetchTranscript h f .lookup []
  | hit {first : Except BackendError (Option Entry)}
      (result : Except E V) :
    FetchTranscript h f (.done result) (f.opening h first)
  | lock {first : Except BackendError (Option Entry)}
      (lockable : h.lock?.isSome) :
    FetchTranscript h f .lock (f.opening h first)
  | lookupAgain {first : Except BackendError (Option Entry)} :
    FetchTranscript h f .lookupAgain
      (f.opening h first ++ [.lock f.key true])
  | hitAgain {first again : Except BackendError (Option Entry)}
      {result : Except E V} (found : f.codec.found? again = some result) :
    FetchTranscript h f (.done result)
      (f.opening h first
        ++ [.lock f.key true, .get f.key again, .release f.key])
  | load {locked : Bool} {calls : List (HostCall V E L)}
      (approach : Approach h f locked calls) :
    FetchTranscript h f (.load locked) calls
  | loading {locked : Bool} {calls : List (HostCall V E L)}
      (approach : Approach h f locked calls) (pauses : Nat)
      (result : Except E V) :
    FetchTranscript h f (.loading locked pauses result)
      (calls ++ [.load f.loader (.ok result)])
  | crashed {locked : Bool} {calls : List (HostCall V E L)}
      (approach : Approach h f locked calls) (c : Crash) :
    FetchTranscript h f (.crashed c)
      (calls ++ .load f.loader (.error c) :: released locked f.key)
  | recorded {locked : Bool} {calls more : List (HostCall V E L)}
      {result : Except E V} (approach : Approach h f locked calls)
      (recorded : Recorded f.settings f.key (f.codec.writeBack result)
        (.ok ()) more) :
    FetchTranscript h f (.evict result)
      (calls ++ .load f.loader (.ok result)
        :: (more ++ released locked f.key))
  | unrecorded {locked : Bool} {calls more : List (HostCall V E L)}
      {result : Except E V} {c : Crash}
      (approach : Approach h f locked calls)
      (recorded : Recorded f.settings f.key (f.codec.writeBack result)
        (.error c) more) :
    FetchTranscript h f (.crashed c)
      (calls ++ .load f.loader (.ok result)
        :: (more ++ released locked f.key))
  | evicted {locked : Bool} {calls more last : List (HostCall V E L)}
      {result : Except E V} (approach : Approach h f locked calls)
      (recorded : Recorded f.settings f.key (f.codec.writeBack result)
        (.ok ()) more) (deleted : Deleted last) :
    FetchTranscript h f (.done result)
      (calls ++ .load f.loader (.ok result)
        :: (more ++ released locked f.key) ++ last)

/-- A move of a fetch continues its transcript. -/
theorem FetchTranscript.move {h : Host S V E L} {f : Fetch V E L}
    {stage next : Stage V E} {calls more : List (HostCall V E L)}
    (ht : FetchTranscript h f stage calls)
    (hmove : FetchMove h f stage next more) :
    FetchTranscript h f next (calls ++ more) := by
  cases hmove with
  | found _ =>
    cases ht
    exact .hit _
  | missed _ =>
    cases ht
    rw [Layer.afterMiss]
    split
    · rename_i hl
      exact .lock hl
    · rename_i hl
      exact .load (.unlocked (Option.not_isSome_iff_eq_none.1 hl))
  | granted =>
    cases ht
    exact .lookupAgain
  | refused =>
    cases ht
    exact .load .refused
  | lockless hl =>
    cases ht with
    | lock lockable =>
      rw [hl] at lockable
      cases lockable
  | foundAgain found =>
    cases ht
    rw [List.append_assoc]
    exact .hitAgain found
  | missedAgain missed =>
    cases ht
    rw [List.append_assoc]
    exact .load (.granted missed)
  | loaded locked result =>
    cases ht with
    | load approach => exact .loading approach _ result
  | crashed locked c =>
    cases ht with
    | load approach => exact .crashed approach c
  | paused locked n result =>
    cases ht with
    | loading approach =>
      rw [List.append_nil]
      exact .loading approach n result
  | recorded locked hr =>
    cases ht with
    | loading approach =>
      rw [List.append_assoc]
      exact .recorded approach hr
  | unrecorded locked hr =>
    cases ht with
    | loading approach =>
      rw [List.append_assoc]
      exact .unrecorded approach hr
  | evicted hd =>
    cases ht with
    | recorded approach hr => exact .evicted approach hr hd
  | done result =>
    rw [List.append_nil]
    exact ht
  | ended c =>
    rw [List.append_nil]
    exact ht

/-! ## Refreshes -/

/-- The calls of a refresh up to its loader, with a lock or without. -/
inductive RefreshApproach (h : Host S V E L) (r : Refresh V E L) :
    Bool → List (HostCall V E L) → Prop where
  | unlocked (unlockable : h.lock? = none) : RefreshApproach h r false []
  | granted : RefreshApproach h r true [.lock r.key true]

/-- The calls that a refresh has made when it stands at a stage. -/
inductive RefreshTranscript (h : Host S V E L) (r : Refresh V E L) :
    RefreshStage V E → List (HostCall V E L) → Prop where
  | start : RefreshTranscript h r .start []
  | lock (lockable : h.lock?.isSome) : RefreshTranscript h r .lock []
  | refused : RefreshTranscript h r .ended [.lock r.key false]
  | load {locked : Bool} {calls : List (HostCall V E L)}
      (approach : RefreshApproach h r locked calls) :
    RefreshTranscript h r (.load locked) calls
  | loading {locked : Bool} {calls : List (HostCall V E L)}
      (approach : RefreshApproach h r locked calls) (pauses : Nat)
      (result : Except E V) :
    RefreshTranscript h r (.loading locked pauses result)
      (calls ++ [.load r.loader (.ok result)])
  | crashed {locked : Bool} {calls : List (HostCall V E L)}
      (approach : RefreshApproach h r locked calls) (c : Crash) :
    RefreshTranscript h r .ended
      (calls ++ .load r.loader (.error c) :: released locked r.key)
  | recorded {locked : Bool} {calls more : List (HostCall V E L)}
      {result : Except E V} {outcome : Except Crash Unit}
      (approach : RefreshApproach h r locked calls)
      (recorded : Recorded r.settings r.key (r.codec.freshen result)
        outcome more) :
    RefreshTranscript h r .ended
      (calls ++ .load r.loader (.ok result)
        :: (more ++ released locked r.key))

/-- A move of a refresh continues its transcript. -/
theorem RefreshTranscript.move {h : Host S V E L} {r : Refresh V E L}
    {stage next : RefreshStage V E} {calls more : List (HostCall V E L)}
    (ht : RefreshTranscript h r stage calls)
    (hmove : RefreshMove h r stage next more) :
    RefreshTranscript h r next (calls ++ more) := by
  cases hmove with
  | lockable hl =>
    cases ht
    exact .lock hl
  | unlockable hl =>
    cases ht
    exact .load (.unlocked hl)
  | granted =>
    cases ht
    exact .load .granted
  | refused =>
    cases ht
    exact .refused
  | lockless hl =>
    cases ht with
    | lock lockable =>
      rw [hl] at lockable
      cases lockable
  | loaded locked result =>
    cases ht with
    | load approach => exact .loading approach _ result
  | crashed locked c =>
    cases ht with
    | load approach => exact .crashed approach c
  | paused locked n result =>
    cases ht with
    | loading approach =>
      rw [List.append_nil]
      exact .loading approach n result
  | recorded locked hr =>
    cases ht with
    | loading approach =>
      rw [List.append_assoc]
      exact .recorded approach hr
  | ended =>
    rw [List.append_nil]
    exact ht

end PolicyWeave
