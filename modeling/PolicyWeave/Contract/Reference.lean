import PolicyWeave.Contract.Basic
import PolicyWeave.Text.Blank
import PolicyWeave.Text.Classes

/-!
# Parameters taken by reference

Types are kept as written, so whether a parameter is a reference, and
whether a mutable one, is read off the text of its type.
-/

namespace PolicyWeave

/-- A character of a lifetime name. -/
def isLifetimeChar (c : Char) : Bool :=
  Text.isAlphanumeric c || c == '_'

/-- The text of a type after the lifetime that may follow its
ampersand. -/
def afterLifetime : List Char → List Char
  | '\'' :: rest => rest.dropWhile isLifetimeChar
  | rest => rest

/-- Whether a type is a mutable reference, with or without a lifetime. -/
def isMutableReference (type : List Char) : Bool :=
  match Text.trimStart type with
  | '&' :: rest =>
    "mut ".toList.isPrefixOf (Text.trimStart (afterLifetime rest))
  | _ => false

/-- Whether a type is a reference. -/
def isReference (type : List Char) : Bool :=
  (Text.trimStart type).head? == some '&'

namespace Param

/-- Whether the parameter is a mutable reference. -/
def isMutRef (p : Param) : Bool := isMutableReference p.type.toList

/-- Whether the parameter is a reference. -/
def isRef (p : Param) : Bool := isReference p.type.toList

end Param

/-- How a parameter is handed on: given away, or shared. -/
inductive Passing where
  | owned
  | shared
  deriving DecidableEq, Repr

/-- References are shared and all else is given away. -/
def Passing.of (p : Param) : Passing :=
  if p.isRef then .shared else .owned

end PolicyWeave
