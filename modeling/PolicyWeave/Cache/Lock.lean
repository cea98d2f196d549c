/-!
# Locks by key

A lock table grants each key to one holder at a time and counts what it
grants, takes back and refuses.

`Guards` are numbered handles whose release runs once: a guard that was
given back is gone.
-/

namespace PolicyWeave

/-- The keys that are held, and the counts. -/
structure LockTable where
  held : List String
  acquired : Nat
  released : Nat
  refused : Nat
  refuseAll : Bool
  deriving DecidableEq, Repr

namespace LockTable

/-- A table with no key held. -/
def empty : LockTable := ⟨[], 0, 0, 0, false⟩

/-- Whether a key is held. -/
def isHeld (t : LockTable) (key : String) : Bool :=
  t.held.contains key

/-- Try to hold a key.  A key already held is refused. -/
def lock (key : String) (t : LockTable) : Bool × LockTable :=
  if t.refuseAll || t.isHeld key then
    (false, { t with refused := t.refused + 1 })
  else
    (true, { t with held := key :: t.held, acquired := t.acquired + 1 })

/-- Give a key back. -/
def release (key : String) (t : LockTable) : LockTable :=
  { t with held := t.held.erase key, released := t.released + 1 }

end LockTable

/-! ## Guards -/

/-- Guards by number, with those released in order. -/
structure Guards where
  held : List Bool
  released : List Nat
  deriving DecidableEq, Repr

namespace Guards

/-- No guards. -/
def empty : Guards := ⟨[], []⟩

/-- One more guard, which is held. -/
def add (g : Guards) : Guards := { g with held := g.held ++ [true] }

/-- Whether a guard is there and held. -/
def isHeld (g : Guards) (i : Nat) : Bool := g.held.getD i false

/-- Give a guard back.  A guard that is gone stays gone. -/
def release (g : Guards) (i : Nat) : Guards :=
  if g.isHeld i then
    { held := g.held.set i false, released := g.released ++ [i] }
  else g

/-- The text of a guard that is still there. -/
def describe? (g : Guards) (i : Nat) : Option String :=
  if g.isHeld i then some "LockGuard \x7b held: true \x7d" else none

end Guards

end PolicyWeave
