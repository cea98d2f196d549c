import PolicyWeave.Data.Reader
import PolicyWeave.Json.Basic

/-!
# Records in JSON

How JSON values are taken apart as records, lists and texts.
-/

namespace PolicyWeave

/-- The reader of JSON values.  A record is an object, or an array with
the fields in order.  A choice is a text, or an object with the choice as
its one name and null behind it. -/
def Json.reader : Reader Json where
  text? := Json.string?
  choice?
    | .string s => some s
    | .object [(s, .null)] => some s
    | _ => none
  number? := Json.double?
  list? := Json.array?
  record?
    | .object members => some (.named members)
    | .array items => some (.positional items)
    | _ => none
  nothing?
    | .null => some true
    | _ => some false

end PolicyWeave
