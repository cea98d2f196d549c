import PolicyWeave.Data.Table
import PolicyWeave.Number.Binary

/-!
# JSON values

Objects hold their members sorted by name and without repetition, so two
objects with the same members are one value.  A number is an integer when
it was one and fits 64 bits, signed or unsigned, and a double otherwise.
-/

namespace PolicyWeave

open Number (Double)

/-- A JSON number. -/
inductive JsonNumber where
  | whole (n : Int)
  | double (x : Double)
  deriving DecidableEq, Inhabited

/-- A JSON value. -/
inductive Json where
  | null
  | bool (b : Bool)
  | number (n : JsonNumber)
  | string (s : String)
  | array (items : List Json)
  | object (members : List (String × Json))
  deriving Inhabited

namespace JsonNumber

/-- Whether an integer fits 64 bits, of which a negative one needs one for
its sign. -/
def fits (n : Int) : Bool :=
  -UInt64.size ≤ 2 * n && n < UInt64.size

/-- The number as a double. -/
def toDouble : JsonNumber → Double
  | .whole n => Number.Format.double.ofInt n
  | .double x => x

end JsonNumber

namespace Json

/-- The object of a list of members in any order; of two members with one
name the later counts. -/
def ofMembers (members : List (String × Json)) : Json :=
  .object (Table.ofList members)

/-- The member of a name; other values than objects have none. -/
def get? (name : String) : Json → Option Json
  | .object members => Table.get? name members
  | _ => none

/-- An integer as a JSON value. -/
def ofNat (n : Nat) : Json :=
  .number (.whole n)

/-- A number of either kind from a finite double. -/
def ofDouble? (x : Double) : Option Json :=
  if x.isFinite then some (.number (.double x)) else none

/-- The text, if the value is one. -/
def string? : Json → Option String
  | .string s => some s
  | _ => none

/-- The number as a double, if the value is one. -/
def double? : Json → Option Double
  | .number n => some n.toDouble
  | _ => none

/-- The items, if the value is an array. -/
def array? : Json → Option (List Json)
  | .array items => some items
  | _ => none

/-- The members, if the value is an object. -/
def object? : Json → Option (List (String × Json))
  | .object members => some members
  | _ => none

/-- The truth value, if the value is one. -/
def bool? : Json → Option Bool
  | .bool b => some b
  | _ => none

/-- The natural number, if the value is one. -/
def nat? : Json → Option Nat
  | .number (.whole n) => if 0 ≤ n then some n.toNat else none
  | _ => none

end Json

end PolicyWeave
