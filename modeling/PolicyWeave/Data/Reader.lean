import PolicyWeave.Number.Binary

/-!
# Reading records from data

A `Reader` says how the values of a data format are taken apart: which
are texts, numbers, lists or records, and which stand for nothing.  The
same decoding then serves every format.

A record is given by the names of its fields or by their order.
`Reader.fields?` brings both to one form: a list with one place for each
declared field.
-/

namespace PolicyWeave

open Number (Double)

/-- The two written forms of a record. -/
inductive RecordForm (α : Type) where
  | named (members : List (String × α))
  | positional (items : List α)

/-- How the values of a format are taken apart.  Whether a value stands
for nothing is `none` when a value says that it does and holds something
all the same. -/
structure Reader (α : Type) where
  text? : α → Option String
  choice? : α → Option String
  number? : α → Option Double
  list? : α → Option (List α)
  record? : α → Option (RecordForm α)
  nothing? : α → Option Bool

namespace Reader

variable {α β : Type}

/-- Whether every name is declared and none comes twice. -/
def namesFit (names : List String) : List (String × α) → Bool
  | [] => true
  | (k, _) :: rest =>
    names.contains k && !(rest.any fun m => m.1 == k)
      && namesFit names rest

/-- The fields of a record, one place for each declared name.  There are
none when a name is unknown or repeated, or when a record by order is too
long. -/
def fields? (r : Reader α) (names : List String) (v : α) :
    Option (List (Option α)) :=
  match r.record? v with
  | none => none
  | some (.named members) =>
    if namesFit names members then
      some (names.map fun n => List.lookup n members)
    else none
  | some (.positional items) =>
    if items.length ≤ names.length then
      some (items.map some
        ++ List.replicate (names.length - items.length) none)
    else none

/-- A field that must be there. -/
def required (f : α → Option β) (v : Option α) : Option β :=
  v.bind f

/-- A field that has a default. -/
def orDefault (dflt : β) (f : α → Option β) (v : Option α) : Option β :=
  match v with
  | none => some dflt
  | some v => f v

/-- A field that may be missing or nothing. -/
def optional (r : Reader α) (f : α → Option β) (v : Option α) :
    Option (Option β) :=
  match v with
  | none => some none
  | some v => do
    if ← r.nothing? v then return none
    let x ← f v
    return some x

/-- A list with every item decoded. -/
def listOf (r : Reader α) (f : α → Option β) (v : α) :
    Option (List β) :=
  (r.list? v).bind fun items => items.mapM f

end Reader

end PolicyWeave
