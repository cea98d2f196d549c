import PolicyWeave.Cache.Layer

/-!
# Calls and refreshes side by side

A call and a refresh as machines.  Their steps are the points at which
another one may come in between: the look-ups, the lock, the loader, and
the recording of its result.  A loader may pause a number of times before
it answers.

There are three groups.

* `Stage` is where a fetch stands, `Layer.step` is one step, and
  `Layer.poll` runs a fetch until its loader pauses or it ends.
* `RefreshStage`, `Layer.stepRefresh` and `Layer.pollRefresh` are the
  same for a refresh.
* `Layer.concurrent` polls fetches in turn until all have ended.
-/

namespace PolicyWeave

/-! ## Fetches -/

/-- Where a fetch stands: what it does next, or how it ended. -/
inductive Stage (V E : Type) where
  | lookup
  | lock
  | lookupAgain
  | load (locked : Bool)
  | loading (locked : Bool) (pauses : Nat) (result : Except E V)
  | evict (result : Except E V)
  | done (result : Except E V)
  | crashed (c : Crash)

namespace Stage

variable {V E : Type}

/-- Whether the loader is pausing. -/
def isPaused : Stage V E → Bool
  | loading _ (_ + 1) _ => true
  | _ => false

/-- Whether the fetch has ended. -/
def isFinal : Stage V E → Bool
  | done _ => true
  | crashed _ => true
  | _ => false

/-- The result of a fetch that has answered. -/
def result? : Stage V E → Option (Except E V)
  | done result => some result
  | _ => none

/-- The crash of a fetch that has crashed. -/
def crash? : Stage V E → Option Crash
  | crashed c => some c
  | _ => none

end Stage

namespace Layer

variable {S V E L : Type} (h : Host S V E L)

/-- Give the lock back, if it was granted. -/
def releaseIf (locked : Bool) (key : String) : StateM S Unit :=
  if locked then h.release key else return

/-- The stage after a look-up that found nothing. -/
def afterMiss : Stage V E :=
  if h.lock?.isSome then .lock else .load false

/-- One step of a fetch. -/
def step (f : Fetch V E L) : Stage V E → StateM S (Stage V E)
  | .lookup => do
    match ← lookup h f with
    | some result => return .done result
    | none => return afterMiss h
  | .lock => do
    if ← acquire h f then return .lookupAgain else return .load false
  | .lookupAgain => do
    match ← lookupAgain h f with
    | some result =>
      h.release f.key
      return .done result
    | none => return .load true
  | .load locked => do
    match ← (h.load f.loader).settled with
    | .ok result => return .loading locked (h.pauses f.loader) result
    | .error c =>
      releaseIf h locked f.key
      return .crashed c
  | .loading locked (n + 1) result => return .loading locked n result
  | .loading locked 0 result => do
    let outcome ← (record h f result).settled
    releaseIf h locked f.key
    match outcome with
    | .ok () => return .evict result
    | .error c => return .crashed c
  | .evict result => return .done (← evictAfter h f .loaded result)
  | .done result => return .done result
  | .crashed c => return .crashed c

/-- At most `fuel` steps of a fetch, up to a pause or the end. -/
def advance (f : Fetch V E L) :
    Nat → Stage V E → StateM S (Stage V E)
  | 0, stage => return stage
  | fuel + 1, stage =>
    if stage.isFinal then return stage
    else do
      let next ← step h f stage
      if stage.isPaused then return next else advance f fuel next

/-- The steps of a fetch up to the next pause or the end, which are never
more than six. -/
def poll (f : Fetch V E L) (stage : Stage V E) : StateM S (Stage V E) :=
  advance h f 6 stage

/-! ## Refreshes -/

end Layer

/-- Where a refresh stands: what it does next, or that it has ended. -/
inductive RefreshStage (V E : Type) where
  | start
  | lock
  | load (locked : Bool)
  | loading (locked : Bool) (pauses : Nat) (result : Except E V)
  | ended

namespace RefreshStage

variable {V E : Type}

/-- Whether the loader is pausing. -/
def isPaused : RefreshStage V E → Bool
  | loading _ (_ + 1) _ => true
  | _ => false

/-- Whether the refresh has ended. -/
def isFinal : RefreshStage V E → Bool
  | ended => true
  | _ => false

end RefreshStage

/-- A refresh under way. -/
structure Job (V E L : Type) where
  refresh : Refresh V E L
  stage : RefreshStage V E

/-- A refresh that has not begun. -/
def Refresh.job {V E L : Type} (r : Refresh V E L) : Job V E L :=
  ⟨r, .start⟩

namespace Layer

variable {S V E L : Type} (h : Host S V E L)

/-- One step of a refresh.  A crash ends it without a trace. -/
def stepRefresh (r : Refresh V E L) :
    RefreshStage V E → StateM S (RefreshStage V E)
  | .start => return if h.lock?.isSome then .lock else .load false
  | .lock => do
    if ← acquireFor h r then return .load true else return .ended
  | .load locked => do
    match ← (h.load r.loader).settled with
    | .ok result => return .loading locked (h.pauses r.loader) result
    | .error _ =>
      releaseIf h locked r.key
      return .ended
  | .loading locked (n + 1) result => return .loading locked n result
  | .loading locked 0 result => do
    let _ ← (recordRefresh h r result).settled
    releaseIf h locked r.key
    return .ended
  | .ended => return .ended

/-- At most `fuel` steps of a refresh, up to a pause or the end. -/
def advanceRefresh (r : Refresh V E L) :
    Nat → RefreshStage V E → StateM S (RefreshStage V E)
  | 0, stage => return stage
  | fuel + 1, stage =>
    if stage.isFinal then return stage
    else do
      let next ← stepRefresh h r stage
      if stage.isPaused then return next else advanceRefresh r fuel next

/-- The steps of a refresh up to the next pause or the end, which are
never more than four. -/
def pollJob (j : Job V E L) : StateM S (Job V E L) := do
  return { j with stage := ← advanceRefresh h j.refresh 4 j.stage }

/-! ## Fetches in turn -/

/-- Poll each fetch once, in order. -/
def pollAll : List (Fetch V E L × Stage V E) →
    StateM S (List (Fetch V E L × Stage V E))
  | [] => return []
  | (f, stage) :: rest => do
    let next ← poll h f stage
    return (f, next) :: (← pollAll rest)

/-- Poll all fetches in turn, at most a number of times, until all have
ended.  While they wait something else may run. -/
def rounds (idle : StateM S Unit) :
    Nat → List (Fetch V E L × Stage V E) →
      StateM S (List (Fetch V E L × Stage V E))
  | 0, fs => return fs
  | n + 1, fs => do
    let fs ← pollAll h fs
    if fs.all fun f => f.2.isFinal then return fs
    else
      idle
      rounds idle n fs

/-- The results of fetches polled in turn.  One round more than the most
pauses of a loader ends them all. -/
def concurrent (idle : StateM S Unit) (fs : List (Fetch V E L)) :
    Act S (List (Except E V)) := do
  let most := (fs.map fun f => h.pauses f.loader).foldl max 0
  let ended ← Act.safe
    (rounds h idle (most + 1) (fs.map fun f => (f, .lookup)))
  match ended.findSome? fun f => f.2.crash? with
  | some c => throw c
  | none => return ended.filterMap fun f => f.2.result?

end Layer

end PolicyWeave
