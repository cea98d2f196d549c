import PolicyWeave.Json.Basic
import PolicyWeave.Key.Render

/-!
# Builtins

A builtin gives a name and an arity to a key function.  A table of
builtins is sorted by name and holds each name once.
-/

namespace PolicyWeave

/-- How many operands a builtin takes.  A variadic builtin without
operands takes every value parameter. -/
inductive Arity where
  | exactly (n : Nat)
  | variadic
  deriving DecidableEq, Repr

namespace Arity

/-- Whether a number of operands fits. -/
def accepts : Arity → Nat → Bool
  | exactly n, count => n == count
  | variadic, _ => true

/-- Whether any number fits. -/
def isVariadic : Arity → Bool
  | exactly _ => false
  | variadic => true

/-- The arity as messages call it. -/
def describe : Arity → String
  | exactly n => Number.natText n
  | variadic => "any number of"

end Arity

/-- A builtin without its name. -/
structure Builtin where
  arity : Arity
  function : KeyFunction
  deriving DecidableEq, Repr

/-- A table of builtins, sorted by name. -/
structure BuiltinTable where
  entries : List (String × Builtin)

namespace BuiltinTable

/-- The table of a list of builtins; of two with one name the later
counts. -/
def ofList (builtins : List (String × Builtin)) : BuiltinTable :=
  ⟨Table.ofList builtins⟩

/-- The builtins that every template may use. -/
def standard : BuiltinTable :=
  ofList
    [("base64_json", ⟨.variadic, .base64Json⟩),
      ("json", ⟨.variadic, .json⟩),
      ("sha256", ⟨.variadic, .sha256⟩),
      ("lower", ⟨.exactly 1, .lower⟩),
      ("upper", ⟨.exactly 1, .upper⟩)]

/-- The builtin of a name. -/
def get? (t : BuiltinTable) (name : String) : Option Builtin :=
  Table.get? name t.entries

/-- Whether the table has a name. -/
def contains (t : BuiltinTable) (name : String) : Bool :=
  (t.get? name).isSome

end BuiltinTable

end PolicyWeave
