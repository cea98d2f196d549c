import PolicyWeave.Cache.Entry
import PolicyWeave.Cache.Error
import PolicyWeave.Data.Table

/-!
# An in-memory store

A store keeps entries by key and counts what it is asked.  Entries never
expire by themselves; `age` sets the time that one has left.

Its switches make it fail on demand.  A failing operation changes no
entry, and a batch of deletes removes the keys that it can even when it
reports others as failed.
-/

namespace PolicyWeave

/-- What a store refuses to do. -/
structure StoreFaults where
  gets : Bool
  sets : Bool
  deletes : Bool
  failures : Bool
  undeletable : List String
  deriving DecidableEq

/-- How often a store was asked. -/
structure StoreCounts where
  gets : Nat
  sets : Nat
  setErrors : Nat
  deletes : Nat
  deriving DecidableEq

/-- A store with its entries sorted by key.  The batches of deletes and
the times to live are listed in the order they came. -/
structure Store where
  entries : List (String × Entry)
  counts : StoreCounts
  batches : List (List String)
  ttls : List Duration
  faults : StoreFaults

namespace Store

/-- A store without entries that does what it is asked. -/
def empty : Store :=
  ⟨[], ⟨0, 0, 0, 0⟩, [], [], ⟨false, false, false, false, []⟩⟩

/-- The entry of a key. -/
def entry? (s : Store) (key : String) : Option Entry :=
  Table.get? key s.entries

/-- The store with an entry under a key. -/
def put (s : Store) (key : String) (e : Entry) : Store :=
  { s with entries := Table.insert key e s.entries }

/-- The store with the time that an entry has left set, and whether there
is such an entry. -/
def age (s : Store) (key : String) (remaining : Duration) : Bool × Store :=
  match s.entry? key with
  | some e => (true, s.put key { e with remaining })
  | none => (false, s)

/-! ## What callers ask -/

/-- The error of an operation that is switched off. -/
def injected (operation : String) : BackendError :=
  .unavailable ("injected " ++ operation ++ " failure")

/-- Look a key up. -/
def get (key : String) (s : Store) :
    Except BackendError (Option Entry) × Store :=
  let s := { s with counts.gets := s.counts.gets + 1 }
  if s.faults.gets then (.error (injected "get"), s)
  else (.ok (s.entry? key), s)

/-- Keep a payload under a key. -/
def keep (key : String) (payload : Payload) (ttl : Duration) (s : Store) :
    Store :=
  { s with ttls := s.ttls ++ [ttl] }.put key (Entry.fresh payload ttl)

/-- Store a value. -/
def set (key : String) (value : Json) (ttl : Duration) (s : Store) :
    Except BackendError Unit × Store :=
  let s := { s with counts.sets := s.counts.sets + 1 }
  if s.faults.sets then (.error (injected "set"), s)
  else (.ok (), s.keep key (.value value) ttl)

/-- Offer a failure to the store, which answers whether it took it. -/
def setError (key : String) (e : CachedError) (ttl : Duration)
    (s : Store) : Except BackendError Bool × Store :=
  let s := { s with counts.setErrors := s.counts.setErrors + 1 }
  if s.faults.sets then (.error (injected "set"), s)
  else if s.faults.failures then (.ok false, s)
  else (.ok true, s.keep key (.failure e) ttl)

/-- The entries without those keys of a batch that can be deleted. -/
def eraseAll (undeletable keys : List String)
    (entries : List (String × Entry)) : List (String × Entry) :=
  keys.foldl (fun es k => if k ∈ undeletable then es else Table.erase k es)
    entries

/-- Delete a batch of keys. -/
def delete (keys : List String) (s : Store) :
    Except BackendError Unit × Store :=
  let s := { s with
    counts.deletes := s.counts.deletes + 1
    batches := s.batches ++ [keys] }
  if s.faults.deletes then (.error (injected "delete"), s)
  else
    let failed := keys.filter fun k => k ∈ s.faults.undeletable
    let s := { s with
      entries := eraseAll s.faults.undeletable keys s.entries }
    if failed.isEmpty then (.ok (), s)
    else
      (.error (.partialDelete keys.length (keys.length - failed.length)
        failed), s)

end Store

end PolicyWeave
