import PolicyWeave.Cache.Layer

/-!
# Sample values and errors

Values of several shapes that a cache can hold, and an error of which one
kind is recorded and one is not.
-/

namespace PolicyWeave.Sample

/-! ## Errors -/

/-- The error of a look-up. -/
inductive LookupError where
  | notFound (id : String)
  | backend (reason : String)
  deriving DecidableEq, Repr

namespace LookupError

/-- The name of the kind of error. -/
def kind : LookupError → String
  | notFound _ => "NotFound"
  | backend _ => "Backend"

/-- The sentence of the error. -/
def message : LookupError → String
  | notFound id => id ++ " not found"
  | backend reason => "backend failure: " ++ reason

/-- Only a missing item is recorded. -/
def toCached? : LookupError → Option CachedError
  | e@(notFound id) => some ⟨"not_found", e.message, .string id⟩
  | backend _ => none

/-- The error that a recorded failure stands for. -/
def ofCached (c : CachedError) : LookupError :=
  match c.detail with
  | .string id =>
    if c.kind == "not_found" then notFound id else backend c.message
  | _ => backend c.message

end LookupError

/-! ## Values -/

/-- A user as a value. -/
def user (id name : String) : Datum :=
  .record [("id", .text id), ("name", .text name)]

/-- The user of a JSON value.  Other members are passed over. -/
def user? : Json → Option Datum
  | v@(.object _) => do
    let id ← v.get? "id" >>= Json.string?
    let name ← v.get? "name" >>= Json.string?
    return user id name
  | .array [.string id, .string name] => some (user id name)
  | _ => none

/-- The octet of a JSON value. -/
def octet? : Json → Option Int
  | .number (.whole n) => if 0 ≤ n && n < 256 then some n else none
  | _ => none

/-- An entry of a map with pairs of octets as keys, and octets as
values. -/
def pairEntry? : Json → Option (MapKey × Datum)
  | .array [a, b, value] => do
    let _ ← octet? a
    let _ ← octet? b
    return (.composite, .whole (← octet? value))
  | _ => none

/-- The shapes of values. -/
inductive Shape where
  | json
  | user
  | natural
  | text
  | pairs
  deriving DecidableEq, Repr

namespace Shape

/-- The value of a shape that a JSON value spells. -/
def decode? : Shape → Json → Option Datum
  | .json, v => some (.ofJson v)
  | .user, v => user? v
  | .natural, .number (.whole n) => if 0 ≤ n then some (.whole n) else none
  | .text, .string s => some (.text s)
  | .pairs, .array items => (items.mapM pairEntry?).map .map
  | _, _ => none

end Shape

/-- How values of a kind enter a cache and come back, beside errors of a
type. -/
def codecOf {E : Type} (decode? : Json → Option Datum)
    (toCached? : E → Option CachedError) (ofCached : CachedError → E) :
    Codec Datum E where
  encode d := d.toJson.mapError DatumError.message
  decode? := decode?
  toCached? := toCached?
  ofCached := ofCached

/-- The codec of a shape. -/
def Shape.codec (s : Shape) : Codec Datum LookupError :=
  codecOf s.decode? LookupError.toCached? LookupError.ofCached

end PolicyWeave.Sample
