/-!
# Decoration

A stack is a base and the decorators registered around it.  The first one
registered becomes the outermost, so whatever enters a built stack meets
the decorators in the order of their registration and then the base.

There are three groups.

* `Stack` with `register` and `build`.
* `Workshop`: a stack under construction, and snapshots of it, under a
  list of steps.
* `Visit`, a value to be decorated that shows which decorators a visit
  meets and how many there are.
-/

namespace PolicyWeave

/-! ## Stacks -/

/-- A base and the decorators around it, the outermost first. -/
structure Stack (α : Type) where
  base : α
  layers : List (α → α)

namespace Stack

variable {α : Type}

/-- A base without decorators. -/
def new (base : α) : Stack α := ⟨base, []⟩

/-- The stack with one more decorator, inside those it has. -/
def register (s : Stack α) (layer : α → α) : Stack α :=
  { s with layers := s.layers ++ [layer] }

/-- The number of decorators. -/
def size (s : Stack α) : Nat := s.layers.length

/-- Whether there are no decorators. -/
def isEmpty (s : Stack α) : Bool := s.layers.isEmpty

/-- The base with all decorators around it. -/
def build (s : Stack α) : α :=
  s.layers.foldr (fun layer inner => layer inner) s.base

end Stack

/-! ## Workshops -/

/-- A stack under construction, with the snapshots taken of it. -/
structure Workshop (α : Type) where
  stack : Stack α
  snapshots : List (Stack α)

/-- One step in a workshop. -/
inductive WorkshopStep (α : Type) where
  | register (layer : α → α)
  | snapshot
  | copy (i : Nat)
  | build
  | buildSnapshot (i : Nat)

namespace Workshop

variable {α : Type}

/-- A workshop with a base and nothing else. -/
def new (base : α) : Workshop α := ⟨.new base, []⟩

/-- The value that a step builds, if it builds one, and the workshop after
it.  Snapshots are numbered from zero. -/
def perform (w : Workshop α) : WorkshopStep α → Option α × Workshop α
  | .register layer => (none, { w with stack := w.stack.register layer })
  | .snapshot => (none, { w with snapshots := w.snapshots ++ [w.stack] })
  | .copy i =>
    (none, { w with snapshots := w.snapshots ++ w.snapshots[i]?.toList })
  | .build => (some w.stack.build, w)
  | .buildSnapshot i => (w.snapshots[i]?.map Stack.build, w)

end Workshop

/-! ## Visits -/

/-- What a visit logs, and how many decorators it meets. -/
structure Visit where
  log : List String
  decorators : Nat
  deriving DecidableEq, Repr

namespace Visit

/-- The visit of a base. -/
def base (name : String) : Visit := ⟨[name], 0⟩

/-- A decorator that logs when a visit enters and leaves it. -/
def layer (name : String) (inner : Visit) : Visit :=
  ⟨("+" ++ name) :: inner.log ++ ["-" ++ name], inner.decorators + 1⟩

end Visit

end PolicyWeave
