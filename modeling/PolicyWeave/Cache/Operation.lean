import PolicyWeave.Cache.World

/-!
# Operations on a layer

A run is a list of operations on one world: calls through the layer, and
everything that can happen beside them.  Entries age, locks are held from
outside, the store fails on demand, and queued refreshes are run.

`Operation.perform` is one operation and answers a `Reply`.
-/

namespace PolicyWeave

/-- Faults to be switched on or off; those not named stay as they are. -/
structure Switches where
  gets : Option Bool
  sets : Option Bool
  deletes : Option Bool
  failures : Option Bool
  locks : Option Bool
  deriving DecidableEq, Repr

/-- One operation on a world. -/
inductive Operation (V E L : Type) where
  | fetch (f : Fetch V E L)
  | concurrent (fs : List (Fetch V E L))
  | evictOnSuccess (method : String) (keys : List String)
      (result : Except E V)
  | evictKeys (method : String) (keys : List String)
  | runQueued
  | preload (key : String) (e : Entry)
  | age (key : String) (remaining : Duration)
  | undeletable (key : String)
  | switch (s : Switches)
  | hold (key : String)
  | unhold (key : String)
  | isHeld (key : String)
  | get (key : String)
  | set (key : String) (value : Json) (ttl : Duration)
  | setError (key : String) (e : CachedError) (ttl : Duration)
  | delete (keys : List String)
  | describe

/-- What an operation answers. -/
inductive Reply (V E : Type) where
  | nothing
  | flag (b : Bool)
  | count (n : Nat)
  | text (s : String)
  | result (r : Except E V)
  | results (rs : List (Except E V))
  | found (r : Except BackendError (Option Entry))
  | taken (r : Except BackendError Bool)
  | finished (r : Except BackendError Unit)

namespace World

variable {V E L X : Type}

/-- Switch faults on or off. -/
def applySwitches (s : Switches) (w : World V E L X) : World V E L X :=
  let faults := w.store.faults
  { w with
    store.faults :=
      { faults with
        gets := s.gets.getD faults.gets
        sets := s.sets.getD faults.sets
        deletes := s.deletes.getD faults.deletes
        failures := s.failures.getD faults.failures }
    locks.refuseAll := s.locks.getD w.locks.refuseAll }

/-- Make a key survive deletes. -/
def keepKey (key : String) (w : World V E L X) : World V E L X :=
  { w with
    store.faults.undeletable := key :: w.store.faults.undeletable }

/-- Hold the lock of a key from outside the layer. -/
def hold (key : String) : StateM (World V E L X) Bool := do
  if ← onLocks (LockTable.lock key) then
    modify fun w => { w with outside := key :: w.outside }
    return true
  else return false

/-- Give back a lock that is held from outside. -/
def unhold (key : String) : StateM (World V E L X) Bool := do
  if key ∈ (← get).outside then
    modify fun w => { w with outside := w.outside.erase key }
    onLocks fun t => ((), t.release key)
    return true
  else return false

end World

namespace Operation

variable {V E L X : Type}

/-- What runs each time that calls wait. -/
def idle (h : Host (World V E L X) V E L) (c : Wiring) :
    StateM (World V E L X) Unit :=
  if c.executor = .detached then World.giveTurns h World.turnsPerWait
  else return

/-- Run the refreshes that are queued.  Where they are given turns, only
so many that some may not end. -/
def runTasks (h : Host (World V E L X) V E L) (c : Wiring) :
    Act (World V E L X) (Reply V E) :=
  if c.executor = .detached then do
    Act.safe
      (World.giveTurns h (World.waitsPerRun * World.turnsPerWait))
    return .nothing
  else .count <$> World.runQueued h

/-- One operation. -/
def perform (h : Host (World V E L X) V E L) (c : Wiring) :
    Operation V E L → Act (World V E L X) (Reply V E)
  | fetch f => .result <$> Layer.fetch h f
  | concurrent fs => .results <$> Layer.concurrent h (idle h c) fs
  | evictOnSuccess method keys result =>
    .result <$> Act.safe (Layer.evictOnSuccess h method keys result)
  | evictKeys method keys =>
    .finished <$> Act.safe (Layer.evictKeys h method keys)
  | runQueued => runTasks h c
  | preload key e => do
    modify fun w => { w with store := w.store.put key e }
    return .nothing
  | age key remaining =>
    .flag <$> Act.safe (World.onStore fun s => s.age key remaining)
  | undeletable key => do
    modify (World.keepKey key)
    return .nothing
  | switch s => do
    modify (World.applySwitches s)
    return .nothing
  | hold key => .flag <$> Act.safe (World.hold key)
  | unhold key => .flag <$> Act.safe (World.unhold key)
  | isHeld key => return .flag ((← MonadState.get).locks.isHeld key)
  | get key => .found <$> Act.safe (World.onStore (Store.get key))
  | set key value ttl =>
    .finished <$> Act.safe (World.onStore (Store.set key value ttl))
  | setError key e ttl =>
    .taken <$> Act.safe (World.onStore (Store.setError key e ttl))
  | delete keys =>
    .finished <$> Act.safe (World.onStore (Store.delete keys))
  | describe => return .text c.describe

end Operation

end PolicyWeave
