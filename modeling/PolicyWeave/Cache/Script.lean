import PolicyWeave.Cache.World

/-!
# Scripted loaders

A scripted loader answers a list of results, one for each time it runs,
and its last one from then on.  The scripts that have run are logged by
number.
-/

namespace PolicyWeave

/-- A loader that answers from a list, which is never empty, and that
pauses before each answer. -/
structure Script (V E : Type) where
  number : Nat
  first : Except E V
  rest : List (Except E V)
  pauses : Nat

namespace Script

variable {V E : Type}

/-- The item at a place, or the last one past the end. -/
def pick {α : Type} : Nat → α → List α → α
  | 0, a, _ => a
  | _ + 1, a, [] => a
  | n + 1, _, b :: rest => pick n b rest

/-- The answer to the run after `n` others. -/
def answer (s : Script V E) (n : Nat) : Except E V :=
  pick n s.first s.rest

/-- Run a script, over the numbers of the scripts that have run. -/
def run (s : Script V E) :
    Act (World V E (Script V E) (List Nat)) (Except E V) := fun w =>
  let result := s.answer (w.base.count s.number)
  (.ok result, { w with base := w.base ++ [s.number] })

end Script

end PolicyWeave
