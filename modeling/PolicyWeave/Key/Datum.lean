import PolicyWeave.Json.Printer

/-!
# Native values

A `Datum` is a value as a caller holds it, before it is written: records
keep the order of their fields, maps may have keys that are not texts,
and numbers may be wider or narrower than JSON numbers.

Two ways lead from a datum to JSON text.  `toJson` builds a JSON value,
whose objects are sorted by name.  `jsonText` writes the text at once, in
the order of the datum.  The two differ where order or width is lost on
the way.
-/

namespace PolicyWeave

open Number

/-- The key of a map entry. -/
inductive MapKey where
  | text (s : String)
  | whole (n : Int)
  | composite
  deriving DecidableEq

/-- A native value. -/
inductive Datum where
  | unit
  | bool (b : Bool)
  | whole (n : Int)
  | single (x : Binary)
  | double (x : Double)
  | text (s : String)
  | sequence (items : List Datum)
  | record (fields : List (String × Datum))
  | map (entries : List (MapKey × Datum))
  deriving Inhabited

/-- Why a datum has no JSON form. -/
inductive DatumError where
  | numberOutOfRange
  | keyNotText
  deriving DecidableEq, Repr

/-- The sentence of an error. -/
def DatumError.message : DatumError → String
  | .numberOutOfRange => "number out of range"
  | .keyNotText => "key must be a string"

/-- The text of a map key. -/
def MapKey.text? : MapKey → Except DatumError String
  | .text s => .ok s
  | .whole n => .ok (intText n)
  | .composite => .error .keyNotText

namespace Datum

mutual

/-- The datum of a JSON value. -/
def ofJson : Json → Datum
  | .null => .unit
  | .bool b => .bool b
  | .number (.whole n) => .whole n
  | .number (.double x) => .double x
  | .string s => .text s
  | .array items => .sequence (ofItems items)
  | .object members => .map (ofMembers members)

/-- The data of JSON values. -/
def ofItems : List Json → List Datum
  | [] => []
  | x :: rest => ofJson x :: ofItems rest

/-- The entries of JSON members. -/
def ofMembers : List (String × Json) → List (MapKey × Datum)
  | [] => []
  | (k, v) :: rest => (.text k, ofJson v) :: ofMembers rest

end

/-- The map of entries with whole keys, in the order of the keys. -/
def ofWholeKeys (entries : List (Nat × Datum)) : Datum :=
  .map ((Table.ofList entries).map fun e => (.whole e.1, e.2))

/-! ## By way of a JSON value -/

/-- A finite number as a JSON value; other numbers are null. -/
def numberJson (x : Double) : Json :=
  (Json.ofDouble? x).getD .null

mutual

/-- The JSON value of a datum.  Integers must fit 64 bits, and a single
is widened first. -/
def toJson : Datum → Except DatumError Json
  | .unit => .ok .null
  | .bool b => .ok (.bool b)
  | .whole n =>
    if JsonNumber.fits n then .ok (.number (.whole n))
    else .error .numberOutOfRange
  | .single x => .ok (numberJson x.widen)
  | .double x => .ok (numberJson x)
  | .text s => .ok (.string s)
  | .sequence items => (itemsJson items).map .array
  | .record fields => (fieldsJson fields).map Json.ofMembers
  | .map entries => (entriesJson entries).map Json.ofMembers

/-- The JSON values of a sequence. -/
def itemsJson : List Datum → Except DatumError (List Json)
  | [] => .ok []
  | x :: rest => do
    let v ← toJson x
    let vs ← itemsJson rest
    return v :: vs

/-- The JSON members of a record. -/
def fieldsJson : List (String × Datum) →
    Except DatumError (List (String × Json))
  | [] => .ok []
  | (k, x) :: rest => do
    let v ← toJson x
    let vs ← fieldsJson rest
    return (k, v) :: vs

/-- The JSON members of a map. -/
def entriesJson : List (MapKey × Datum) →
    Except DatumError (List (String × Json))
  | [] => .ok []
  | (k, x) :: rest => do
    let name ← k.text?
    let v ← toJson x
    let vs ← entriesJson rest
    return (name, v) :: vs

end

/-! ## Straight to text -/

/-- A number of the given format as JSON text.  What is no finite number
is nothing. -/
def numberText (l : Layout) (f : Format) (x : Binary) : String :=
  if x.isFinite then l.render f x else "null"

mutual

/-- The JSON text of a datum, in its own order. -/
def jsonText : Datum → Except DatumError String
  | .unit => .ok "null"
  | .bool b => .ok (if b then "true" else "false")
  | .whole n => .ok (intText n)
  | .single x => .ok (numberText jsonSingleLayout Format.single x)
  | .double x => .ok (numberText jsonLayout Format.double x)
  | .text s => .ok (Json.quote s)
  | .sequence items => do
    let body ← itemsText items
    return "[" ++ body ++ "]"
  | .record fields => do
    let body ← fieldsText fields
    return "\x7b" ++ body ++ "\x7d"
  | .map entries => do
    let body ← entriesText entries
    return "\x7b" ++ body ++ "\x7d"

/-- The text of items, parted by commas. -/
def itemsText : List Datum → Except DatumError String
  | [] => .ok ""
  | [x] => jsonText x
  | x :: y :: rest => do
    let a ← jsonText x
    let b ← itemsText (y :: rest)
    return a ++ "," ++ b

/-- The text of fields, parted by commas. -/
def fieldsText : List (String × Datum) → Except DatumError String
  | [] => .ok ""
  | [(k, x)] => do
    let a ← jsonText x
    return Json.quote k ++ ":" ++ a
  | (k, x) :: f :: rest => do
    let a ← jsonText x
    let b ← fieldsText (f :: rest)
    return Json.quote k ++ ":" ++ a ++ "," ++ b

/-- The text of entries, parted by commas. -/
def entriesText : List (MapKey × Datum) → Except DatumError String
  | [] => .ok ""
  | [(k, x)] => do
    let name ← k.text?
    let a ← jsonText x
    return Json.quote name ++ ":" ++ a
  | (k, x) :: e :: rest => do
    let name ← k.text?
    let a ← jsonText x
    let b ← entriesText (e :: rest)
    return Json.quote name ++ ":" ++ a ++ "," ++ b

end

end Datum

end PolicyWeave
