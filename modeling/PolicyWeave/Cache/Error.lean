import PolicyWeave.Number.Layout
import PolicyWeave.Text.Literal

/-!
# Errors of a cache

What a cache backend answers when it cannot do what it is asked.  None of
these errors ever replaces the result of a call.
-/

namespace PolicyWeave

/-- A fault of a cache backend. -/
inductive BackendError where
  | unavailable (reason : String)
  | serialization (key reason : String)
  | partialDelete (requested deleted : Nat) (failed : List String)
  deriving DecidableEq, Repr

namespace BackendError

/-- The name of the kind of error. -/
def kind : BackendError → String
  | unavailable _ => "Unavailable"
  | serialization _ _ => "Serialization"
  | partialDelete _ _ _ => "PartialDelete"

/-- Texts as literals in brackets. -/
def literalList (items : List String) : String :=
  "[" ++ String.intercalate ", " (items.map Text.literal) ++ "]"

/-- The sentence of the error. -/
def message : BackendError → String
  | unavailable reason => "cache backend unavailable: " ++ reason
  | serialization key reason =>
    "cache entry '" ++ key ++ "' could not be encoded or decoded: "
      ++ reason
  | partialDelete requested deleted failed =>
    "deleted " ++ Number.natText deleted ++ " of "
      ++ Number.natText requested ++ " keys, failed: "
      ++ literalList failed

end BackendError

end PolicyWeave
