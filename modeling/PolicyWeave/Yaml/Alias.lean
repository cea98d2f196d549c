import PolicyWeave.Yaml.Node

/-!
# Aliases

What the aliases of a document refer to, and how many of them there are to
follow.

* `Document.resolve` is the node that a node stands for.
* `Document.isBounded` says that following every alias, and every alias
  behind it, takes at most a hundred steps for each part of the document.
  It fails for aliases that lead back to themselves.
-/

namespace PolicyWeave.Yaml

namespace Node

mutual

/-- The slots that the aliases in a node refer to, in order. -/
def aliases : Node → List Nat
  | .scalar .. => []
  | .sequence items => itemAliases items
  | .mapping members => memberAliases members
  | .alias slot => [slot]

/-- The slots that items refer to. -/
def itemAliases : List Node → List Nat
  | [] => []
  | n :: rest => n.aliases ++ itemAliases rest

/-- The slots that keys and values refer to. -/
def memberAliases : List (Node × Node) → List Nat
  | [] => []
  | (key, value) :: rest =>
    key.aliases ++ value.aliases ++ memberAliases rest

end

end Node

/-- Whether a number of steps suffices to follow aliases.  Each slot links
to those that its node refers to. -/
def followsWithin (links : List (Nat × List Nat)) :
    Nat → List Nat → Bool
  | _, [] => true
  | 0, _ :: _ => false
  | n + 1, slot :: rest =>
    followsWithin links n ((links.lookup slot).getD [] ++ rest)

namespace Document

/-- The node in a slot: of all that were put there the last. -/
def inSlot? (d : Document) (slot : Nat) : Option Node :=
  d.placed.reverse.lookup slot

/-- The node that a node stands for. -/
def resolve (d : Document) : Node → Node
  | .alias slot => (d.inSlot? slot).getD (.alias slot)
  | n => n

/-- Whether the aliases of a document can be followed in a hundred steps
for each of its parts. -/
def isBounded (d : Document) : Bool :=
  let links := d.placed.reverse.map fun (slot, n) => (slot, n.aliases)
  followsWithin links (100 * d.size) d.root.aliases

end Document

end PolicyWeave.Yaml
