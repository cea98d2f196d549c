import PolicyWeave.Cache.Entry
import PolicyWeave.Cache.Error
import PolicyWeave.Cache.Jitter
import PolicyWeave.Event

/-!
# The cache layer

A fetch answers the result of a key: the recorded one if there is one,
or else the result of its loader, which is then recorded.  Faults of the
cache are reported and otherwise treated as misses, so only the loader's
own error reaches the caller.

There are five groups.

* `Act`, steps over a state that may crash.
* `Codec` and `Host`: how results enter the cache and come back, and the
  collaborators that a layer is given.
* The phases of a fetch: looking up, locking, recording.
* `Layer.fetch`, a fetch from its first look-up to the eviction behind it.
* `Layer.refresh`, a refresh that was handed on.
-/

namespace PolicyWeave

/-! ## Steps -/

/-- Why steps crash: a time to live, varied by its jitter, has no
duration. -/
inductive Crash where
  | noDuration
  deriving DecidableEq, Repr

/-- Steps over a state.  Steps answer a value or crash, and leave a state
in either case. -/
abbrev Act (S α : Type) : Type := ExceptT Crash (StateM S) α

namespace Act

variable {S α : Type}

/-- Steps that never crash. -/
def safe (steps : StateM S α) : Act S α := ExceptT.lift steps

/-- What came of steps: their value or their crash. -/
def settled (act : Act S α) : StateM S (Except Crash α) :=
  ExceptT.run act

/-- Steps that are followed by a last one even when they crash. -/
def thenAlways (act : Act S α) (last : StateM S Unit) : Act S α :=
  ExceptT.mk do
    let outcome ← act.settled
    last
    return outcome

end Act

/-! ## Collaborators -/

/-- How the results of a call enter the cache and come back.  A value may
have no written form, a written form may not read back, and an error may
be kept out of the cache. -/
structure Codec (V E : Type) where
  encode : V → Except String Json
  decode? : Json → Option V
  toCached? : E → Option CachedError
  ofCached : CachedError → E

/-- A call to be answered through the cache.  With `evicts` it also
deletes keys after its loader has run and succeeded. -/
structure Fetch (V E L : Type) where
  settings : CacheSettings
  key : String
  codec : Codec V E
  loader : L
  evicts : Option (List String)

/-- A refresh of one key, to be run later. -/
structure Refresh (V E L : Type) where
  settings : CacheSettings
  key : String
  codec : Codec V E
  loader : L

/-- The collaborators of a layer over a state: the cache, a locker if
there is one, an executor if there is one, the loaders and how often each
pauses, a supply of random words, and the log. -/
structure Host (S V E L : Type) where
  get : String → StateM S (Except BackendError (Option Entry))
  set : String → Json → Duration → StateM S (Except BackendError Unit)
  setError : String → CachedError → Duration →
    StateM S (Except BackendError Bool)
  delete : List String → StateM S (Except BackendError Unit)
  lock? : Option (String → StateM S Bool)
  release : String → StateM S Unit
  submit? : Option (Refresh V E L → StateM S Unit)
  load : L → Act S (Except E V)
  pauses : L → Nat
  draw : StateM S Nat
  report : Event → StateM S Unit

/-- Where the result of a call came from. -/
inductive Origin where
  | cached
  | loaded
  deriving DecidableEq, Repr

/-- What is to be recorded about a result. -/
inductive WriteBack where
  | value (v : Json)
  | failure (e : CachedError)
  | skip

/-- An event about a key of a method. -/
def keyEvent (level : Level) (settings : CacheSettings) (key : String)
    (message : String) (fields : List (String × String)) : Event :=
  Event.of level message
    (("method", settings.method) :: ("key", key) :: fields)

namespace Layer

variable {S V E L : Type} (h : Host S V E L)

/-! ## Looking up -/

/-- The entry of a key.  A failing look-up is a miss. -/
def read (settings : CacheSettings) (key : String) :
    StateM S (Option Entry) := do
  match ← h.get key with
  | .ok entry => return entry
  | .error e =>
    h.report (keyEvent .warn settings key
      "cache lookup failed, treating as miss" [("error", e.message)])
    return none

/-- The result that an entry stands for.  There is none when its value
does not read back. -/
def replay (codec : Codec V E) (settings : CacheSettings) (key : String)
    (entry : Entry) : StateM S (Option (Except E V)) :=
  match entry.payload with
  | .failure e => return some (.error (codec.ofCached e))
  | .value v =>
    match codec.decode? v with
    | some value => return some (.ok value)
    | none => do
      h.report (keyEvent .warn settings key
        "cached value did not decode, treating as miss" [])
      return none

/-- Hand a refresh on if the entry is near its end. -/
def offerRefresh (f : Fetch V E L) (entry : Entry) : StateM S Unit :=
  match h.submit? with
  | none => return
  | some submit =>
    if f.settings.shouldRefresh entry then do
      let left := entry.remaining.milliseconds % UInt64.size
      h.report (keyEvent .debug f.settings f.key
        "submitting background refresh"
        [("remaining_ms", Number.natText left)])
      submit ⟨f.settings, f.key, f.codec, f.loader⟩
    else return

/-- The first look-up of a fetch, which may hand a refresh on. -/
def lookup (f : Fetch V E L) : StateM S (Option (Except E V)) := do
  match ← read h f.settings f.key with
  | none => return none
  | some entry =>
    offerRefresh h f entry
    replay h f.codec f.settings f.key entry

/-- The look-up under a lock, for a result that another caller recorded
in the meantime. -/
def lookupAgain (f : Fetch V E L) : StateM S (Option (Except E V)) := do
  match ← read h f.settings f.key with
  | none => return none
  | some entry => replay h f.codec f.settings f.key entry

/-! ## Locking -/

/-- Try to hold the lock of the key, if there is a locker. -/
def acquire (f : Fetch V E L) : StateM S Bool :=
  match h.lock? with
  | none => return false
  | some lock => do
    let granted ← lock f.key
    if granted then return true
    else
      h.report (keyEvent .debug f.settings f.key
        "lock not acquired, populating unlocked" [])
      return false

/-! ## Recording -/

/-- What is to be recorded about a value. -/
def encodeValue (codec : Codec V E) (settings : CacheSettings)
    (key : String) (value : V) : StateM S WriteBack :=
  match codec.encode value with
  | .ok v => return .value v
  | .error reason => do
    h.report (keyEvent .warn settings key
      "result did not encode, not caching" [("error", reason)])
    return .skip

/-- What is to be recorded about a result. -/
def writeBackOf (f : Fetch V E L) (result : Except E V) :
    StateM S WriteBack :=
  match result with
  | .ok value => encodeValue h f.codec f.settings f.key value
  | .error e =>
    return match f.codec.toCached? e with
      | some cached => .failure cached
      | none => .skip

/-- Record something under a key for a given time. -/
def store (settings : CacheSettings) (key : String) (ttl : Duration) :
    WriteBack → StateM S Unit
  | .value v => do
    match ← h.set key v ttl with
    | .ok () => return
    | .error e =>
      h.report (keyEvent .warn settings key "cache store failed"
        [("error", e.message)])
  | .failure cached => do
    match ← h.setError key cached ttl with
    | .ok true =>
      h.report (keyEvent .debug settings key "failure negatively cached"
        [("kind", cached.kind)])
    | .ok false => return
    | .error e =>
      h.report (keyEvent .warn settings key
        "negative cache store failed" [("error", e.message)])
  | .skip => return

/-- Record something under a key for the time to live, varied by the
jitter. -/
def write (settings : CacheSettings) (key : String) (wb : WriteBack) :
    Act S Unit := do
  let word ← h.draw
  match Jitter.sample? settings.ttl settings.jitterPercent word with
  | none => throw .noDuration
  | some ttl => store h settings key ttl wb

/-! ## Evicting -/

/-- Delete a batch of keys.  An empty batch asks nothing of the cache. -/
def evictKeys (method : String) (keys : List String) :
    StateM S (Except BackendError Unit) :=
  if keys.isEmpty then return .ok ()
  else do
    match ← h.delete keys with
    | .error e => return .error e
    | .ok () =>
      h.report (Event.of .debug "evicted keys"
        [("method", method), ("count", Number.natText keys.length)])
      return .ok ()

/-- Delete a batch of keys if a call succeeded.  The result is handed back
whatever comes of it. -/
def evictOnSuccess (method : String) (keys : List String)
    (result : Except E V) : StateM S (Except E V) := do
  match result with
  | .error _ => return result
  | .ok _ =>
    match ← evictKeys h method keys with
    | .ok () => return result
    | .error e =>
      h.report (Event.of .warn "eviction failed after successful call"
        [("method", method), ("keys", BackendError.literalList keys),
          ("error", e.message)])
      return result

/-- The eviction behind a fetch: only a result that was loaded counts. -/
def evictAfter (f : Fetch V E L) (origin : Origin) (result : Except E V) :
    StateM S (Except E V) :=
  match f.evicts, origin with
  | some keys, .loaded =>
    evictOnSuccess h f.settings.method keys result
  | _, _ => return result

/-! ## Fetching -/

/-- Record the result of a loader. -/
def record (f : Fetch V E L) (result : Except E V) : Act S Unit := do
  let wb ← writeBackOf h f result
  write h f.settings f.key wb

/-- Load and record the result, and answer it. -/
def loadAndRecord (f : Fetch V E L) : Act S (Except E V) := do
  let result ← h.load f.loader
  record h f result
  return result

/-- What a fetch does under its lock: look up again, then load. -/
def populateLocked (f : Fetch V E L) : Act S (Except E V × Origin) := do
  match ← lookupAgain h f with
  | some result => return (result, .cached)
  | none => return (← loadAndRecord h f, .loaded)

/-- A fetch without the eviction behind it. -/
def populate (f : Fetch V E L) : Act S (Except E V × Origin) := do
  match ← lookup h f with
  | some result => return (result, .cached)
  | none =>
    if ← acquire h f then
      (populateLocked h f).thenAlways (h.release f.key)
    else return (← loadAndRecord h f, .loaded)

/-- The result of a key through the cache. -/
def fetch (f : Fetch V E L) : Act S (Except E V) := do
  let (result, origin) ← populate h f
  Act.safe (evictAfter h f origin result)

/-! ## Refreshing -/

/-- Try to hold the lock of a refresh. -/
def acquireFor (r : Refresh V E L) : StateM S Bool :=
  match h.lock? with
  | none => return false
  | some lock => do
    let granted ← lock r.key
    if granted then return true
    else
      h.report (keyEvent .debug r.settings r.key
        "refresh skipped, key is locked" [])
      return false

/-- Record what a refresh has loaded.  A failing loader leaves the entry
as it is. -/
def recordRefresh (r : Refresh V E L) : Except E V → Act S Unit
  | .ok value => do
    let wb ← encodeValue h r.codec r.settings r.key value
    write h r.settings r.key wb
  | .error _ => do
    h.report (keyEvent .debug r.settings r.key
      "refresh failed, keeping current entry" [])
    write h r.settings r.key .skip

/-- Load a value and record it. -/
def reload (r : Refresh V E L) : Act S Unit := do
  let result ← h.load r.loader
  recordRefresh h r result

/-- Run a refresh.  It does nothing when its key is locked. -/
def refresh (r : Refresh V E L) : Act S Unit :=
  if h.lock?.isSome then do
    if ← acquireFor h r then
      (reload h r).thenAlways (h.release r.key)
  else reload h r

end Layer

end PolicyWeave
