import PolicyWeave.Cache.Schedule
import PolicyWeave.Cache.Lock
import PolicyWeave.Cache.Store

/-!
# A layer at work

A `World` is the state that a layer and its callers share: an in-memory
store, a lock table, the refreshes that were handed on, the log, the
spans, and whatever the loaders read and write.

* `Wiring` says which collaborators a layer was given, and
  `Wiring.host` are those collaborators over a world.
* `World.runQueued` and `World.giveTurns` run the refreshes that were
  handed on.
-/

namespace PolicyWeave

/-- A span with the fields that were recorded on it. -/
structure SpanRecord where
  name : String
  fields : List (String × String)
  deriving DecidableEq, Repr

/-- What a layer and its callers share. -/
structure World (V E L X : Type) where
  store : Store
  locks : LockTable
  outside : List String
  queue : List (Job V E L)
  submitted : Nat
  words : List Nat
  events : List Event
  span : Option String
  spans : List SpanRecord
  base : X

namespace World

variable {V E L X : Type}

/-- A world in which nothing has happened yet. -/
def initial (base : X) : World V E L X :=
  ⟨.empty, .empty, [], [], 0, [], [], none, [], base⟩

/-- Steps on the store of a world. -/
def onStore {α : Type} (f : Store → α × Store) :
    StateM (World V E L X) α := fun w =>
  let (a, store) := f w.store
  (a, { w with store })

/-- Steps on the locks of a world. -/
def onLocks {α : Type} (f : LockTable → α × LockTable) :
    StateM (World V E L X) α := fun w =>
  let (a, locks) := f w.locks
  (a, { w with locks })

/-- Report an event in the span that is open. -/
def report (e : Event) : StateM (World V E L X) Unit :=
  modify fun w =>
    { w with events := w.events ++ [{ e with span := e.span <|> w.span }] }

/-- The next random word; the supply ends in zeros. -/
def draw : StateM (World V E L X) Nat := fun w =>
  match w.words with
  | [] => (0, w)
  | word :: words => (word, { w with words })

/-- Queue a refresh. -/
def submit (r : Refresh V E L) : StateM (World V E L X) Unit :=
  modify fun w =>
    { w with queue := w.queue ++ [r.job], submitted := w.submitted + 1 }

end World

/-- The lockers that a layer may be given: none, the lock table, or the
lock table with a value stored under each key before it is locked. -/
inductive Locker where
  | none
  | table
  | populating (value : Json)

/-- The executors that a layer may be given: none, one that runs queued
refreshes one after another when it is told to, or one that also gives
them turns whenever calls wait, and where a crash ends no other. -/
inductive Executor where
  | none
  | queued
  | detached
  deriving DecidableEq, Repr

/-- The collaborators that a layer was given beside its store. -/
structure Wiring where
  locker : Locker
  executor : Executor

namespace Wiring

variable {V E L X : Type}

/-- How long a populating locker lets its values live. -/
def populatedTtl : Duration := .ofMilliseconds 300000

/-- The lock operation of a locker. -/
def lock? : Locker → Option (String → StateM (World V E L X) Bool)
  | .none => none
  | .table => some fun key => World.onLocks (LockTable.lock key)
  | .populating value => some fun key => do
    match ← World.onStore (Store.set key value populatedTtl) with
    | .error _ => return false
    | .ok () => World.onLocks (LockTable.lock key)

/-- The collaborators of a layer over a world, with given loaders. -/
def host (c : Wiring) (load : L → Act (World V E L X) (Except E V))
    (pauses : L → Nat) : Host (World V E L X) V E L where
  get key := World.onStore (Store.get key)
  set key value ttl := World.onStore (Store.set key value ttl)
  setError key e ttl := World.onStore (Store.setError key e ttl)
  delete keys := World.onStore (Store.delete keys)
  lock? := lock? c.locker
  release key := World.onLocks fun t => ((), t.release key)
  submit? := if c.executor = .none then none else some World.submit
  load := load
  pauses := pauses
  draw := World.draw
  report := World.report

/-- The text of a layer. -/
def describe (c : Wiring) : String :=
  let hasLocker := match c.locker with
    | .none => "false"
    | _ => "true"
  "CacheLayer \x7b locker: " ++ hasLocker ++ ", executor: "
    ++ (if c.executor = .none then "false" else "true") ++ " \x7d"

end Wiring

namespace World

variable {V E L X : Type}

/-! ## One after another -/

/-- Take all jobs off the queue. -/
def takeQueue : StateM (World V E L X) (List (Job V E L)) := fun w =>
  (w.queue, { w with queue := [] })

/-- Run refreshes one after another. -/
def runAll (h : Host (World V E L X) V E L) :
    List (Refresh V E L) → Act (World V E L X) Unit
  | [] => return
  | r :: rest => do
    Layer.refresh h r
    runAll h rest

/-- Run the refreshes that are queued, none of which has begun, one after
another, and answer how many there were. -/
def runQueued (h : Host (World V E L X) V E L) :
    Act (World V E L X) Nat := do
  let jobs ← Act.safe takeQueue
  runAll h (jobs.map (·.refresh))
  return jobs.length

/-! ## In turn -/

/-- Take the first job off the queue. -/
def takeJob : StateM (World V E L X) (Option (Job V E L)) := fun w =>
  (w.queue.head?, { w with queue := w.queue.tail })

/-- Put a job back, behind all others, unless it has ended. -/
def returnJob (j : Job V E L) : StateM (World V E L X) Unit :=
  modify fun w =>
    if j.stage.isFinal then w else { w with queue := w.queue ++ [j] }

/-- Give a number of turns to the jobs in the queue, to the first one
first.  Jobs that pause, and those that are queued meanwhile, come behind
the others. -/
def giveTurns (h : Host (World V E L X) V E L) :
    Nat → StateM (World V E L X) Unit
  | 0 => return
  | n + 1 => do
    match ← takeJob with
    | none => return
    | some j =>
      returnJob (← Layer.pollJob h j)
      giveTurns h n

/-- The turns that jobs are given each time that calls wait. -/
def turnsPerWait : Nat := 61

/-- How often a run of the queue waits for it. -/
def waitsPerRun : Nat := 32

end World

end PolicyWeave
