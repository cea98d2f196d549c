import PolicyWeave.Data.Reader
import PolicyWeave.Yaml.Alias
import PolicyWeave.Yaml.Scalar

/-!
# Records in YAML

How nodes are taken apart as records, lists, texts and numbers.  Every
scalar is a text where a text is wanted, and an alias is the node that it
refers to.
-/

namespace PolicyWeave

namespace Yaml

/-- The tag of nothing. -/
def nullTag : Octets := .ofText "tag:yaml.org,2002:null"

/-- The tag of numbers with a point. -/
def floatTag : Octets := .ofText "tag:yaml.org,2002:float"

namespace Node

/-- The text of a scalar. -/
def text? : Node → Option String
  | .scalar _ _ s => some s
  | _ => none

/-- Whether nothing is written, or an empty text without quotes. -/
def isBlank : Node → Bool
  | .scalar _ .plain s => s.isEmpty
  | _ => false

/-- The name behind the exclamation mark of a tag that a text declares
for itself, if it is a text. -/
def localTag? (tag : Option Octets) : Option String :=
  match tag with
  | some (0x21 :: name) => Octets.text? name
  | _ => none

/-- A choice: the text of a scalar, or a tag of which the scalar is
nothing. -/
def choice? : Node → Option String
  | .scalar tag style s =>
    match localTag? tag with
    | none => some s
    | some name =>
      if style == .plain && (s.isEmpty || isNull s) then some name
      else none
  | _ => none

/-- The number of a plain scalar, or of a literal one with the tag of
numbers. -/
def number? : Node → Option Number.Double
  | .scalar tag style s =>
    if style == .plain || style == .literal && tag == some floatTag then
      Yaml.number? s
    else none
  | _ => none

/-- Whether a node stands for nothing.  A plain scalar with the tag of
nothing has to. -/
def nothing? : Node → Option Bool
  | .scalar none .plain s => some (s.isEmpty || isNull s)
  | .scalar (some tag) .plain s =>
    if tag == nullTag then if isNull s then some true else none
    else some false
  | _ => some false

/-- The items of a sequence, which may be left blank. -/
def items? : Node → Option (List Node)
  | .sequence items => some items
  | n => if n.isBlank then some [] else none

/-- The members of a mapping, which may be left blank. -/
def members? : Node → Option (List (Node × Node))
  | .mapping members => some members
  | n => if n.isBlank then some [] else none

end Node

namespace Document

/-- A member of a record, whose name is the text of its key. -/
def member? (d : Document) : Node × Node → Option (String × Node)
  | (key, value) => (d.resolve key).text?.map fun name => (name, value)

/-- The reader of the nodes of a document. -/
def reader (d : Document) : Reader Node where
  text? n := (d.resolve n).text?
  choice? n := (d.resolve n).choice?
  number? n := (d.resolve n).number?
  list? n := (d.resolve n).items?
  record? n := do
    let members ← (d.resolve n).members?
    return .named (← members.mapM d.member?)
  nothing? n := (d.resolve n).nothing?

end Document

end Yaml

end PolicyWeave
