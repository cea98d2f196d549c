import PolicyWeave.Yaml.Scan

/-!
# Nodes of YAML

The tree that a text spells: scalars, sequences, mappings, and aliases
that refer to a slot.  Each name of an anchor has a slot, and an alias
refers to the node that is in it at the end of the document.

There are four groups.

* `Node` and the state in which tokens are read.
* Tags, anchors and slots.
* The nodes of blocks and of brackets.
* `document?`, the one document of a text.

Fuel bounds the depth.  Every level takes a token, except that a
collection and its first item start at one token.
-/

namespace PolicyWeave.Yaml

/-! ## Nodes and state -/

/-- A part of a document.  The tags of sequences and mappings are read
and dropped, as nothing depends on them. -/
inductive Node where
  | scalar (tag : Option Octets) (style : ScalarStyle) (text : String)
  | sequence (items : List Node)
  | mapping (members : List (Node × Node))
  | alias (slot : Nat)

/-- The scalar that stands where nothing is written. -/
def Node.empty : Node := .scalar none .plain ""

/-- A document: its node, the nodes that were put into slots, first put
first, and its size. -/
structure Document where
  root : Node
  placed : List (Nat × Node)
  size : Nat

/-- What is left of the tokens, the slots of the names so far, the nodes
in slots, and the size of the document. -/
structure Reading where
  tokens : List Token
  slots : List (String × Nat)
  placed : List (Nat × Node)
  size : Nat

/-- A step that reads tokens. -/
abbrev Read := StateT Reading Option

namespace Read

/-- The next token. -/
def peek : Read (Option Token) := return (← get).tokens.head?

/-- Takes the next token. -/
def skip : Read Unit :=
  modify fun r => { r with tokens := r.tokens.drop 1 }

/-- Takes a token that has to come next. -/
def expect (t : Token) : Read Unit := do
  if (← peek) == some t then skip else failure

/-- Counts a number of marks towards the size. -/
def count (n : Nat) : Read Unit :=
  modify fun r => { r with size := r.size + n }

/-! ## Tags, anchors and slots -/

/-- The tag of a name, where the handles have the given expansions. -/
def resolve (handles : List (String × Octets)) : TagName → Read Octets
  | .whole octets => return octets
  | .short handle suffix =>
    match handles.lookup handle with
    | some expansion => return expansion ++ suffix
    | none => failure

/-- The tag that is next, if there is one. -/
def tag? (handles : List (String × Octets)) : Read (Option Octets) := do
  match ← peek with
  | some (.tag name) => skip; return some (← resolve handles name)
  | _ => return none

/-- The anchor that is next, if there is one. -/
def anchor? : Read (Option String) := do
  match ← peek with
  | some (.anchor name) => skip; return some name
  | _ => return none

/-- The anchor and the tag of a node, in either order. -/
def properties (handles : List (String × Octets)) :
    Read (Option String × Option Octets) := do
  match ← anchor? with
  | some name => return (some name, ← tag? handles)
  | none =>
    let tag ← tag? handles
    return (← anchor?, tag)

/-- The alias of a name, which has to have a slot. -/
def alias? (name : String) : Read Node := do
  let r ← get
  match r.slots.lookup name with
  | some slot =>
    set { r with size := r.size + 1 }
    return .alias slot
  | none => failure

/-- Gives a name its slot: the number of names that have one.  A name that
comes again is thereby moved, and a later name may get the same slot. -/
def takeSlot (name : String) : Read Nat := do
  let r ← get
  let slot := r.slots.length
  let others := r.slots.filter fun s => s.1 != name
  set { r with slots := (name, slot) :: others }
  return slot

/-- A node with an anchor, if it has one.  Of nodes in one slot the one
that starts last counts, so its place is kept before it is read. -/
def anchored (name : Option String) (body : Read Node) : Read Node := do
  match name with
  | none => body
  | some name =>
    let slot ← takeSlot name
    let place := (← get).placed.length
    modify fun r => { r with placed := r.placed ++ [(slot, .empty)] }
    let node ← body
    modify fun r => { r with placed := r.placed.set place (slot, node) }
    return node

/-! ## Collections -/

/-- The empty scalar. -/
def emptyScalar : Read Node := do
  count 1
  return .empty

/-- A step, unless one of the given tokens is next: then nothing is
written. -/
def nodeUnless (stops : List Token) (step : Read Node) : Read Node := do
  if (← peek).any stops.contains then emptyScalar else step

/-- The value behind a colon, if there is one. -/
def valueUnless (stops : List Token) (step : Read Node) : Read Node := do
  if (← peek) == some .value then
    skip
    nodeUnless stops step
  else emptyScalar

/-- What stands for a node of which at most an anchor and a tag are
written; one of them has to be. -/
def unwritten (name : Option String) (tag : Option Octets) :
    Read Node := do
  if name.isNone && tag.isNone then failure
  count 1
  return .scalar tag .plain ""

mutual

/-- A node.  Blocks may be nodes outside brackets only, and a sequence
without an indentation of its own only behind a key. -/
def node (handles : List (String × Octets)) (inBlock behindKey : Bool) :
    Nat → Read Node
  | 0 => failure
  | fuel + 1 => do
    match ← peek with
    | some (.reference name) => skip; alias? name
    | _ => do
      let (name, tag) ← properties handles
      anchored name <| do
        match ← peek with
        | some (.scalar style text) =>
          skip
          count 1
          return .scalar tag style text
        | some .flowSequence =>
          skip
          count 2
          return .sequence (← flowItems handles true fuel)
        | some .flowMapping =>
          skip
          count 2
          return .mapping (← flowMembers handles true fuel)
        | some .blockSequence =>
          if inBlock then
            skip
            count 2
            return .sequence (← blockItems handles fuel)
          else unwritten name tag
        | some .blockMapping =>
          if inBlock then
            skip
            count 2
            return .mapping (← blockMembers handles fuel)
          else unwritten name tag
        | some .entry =>
          if behindKey then
            count 2
            return .sequence (← flatItems handles fuel)
          else unwritten name tag
        | _ => unwritten name tag

/-- The items of a block up to its end. -/
def blockItems (handles : List (String × Octets)) :
    Nat → Read (List Node)
  | 0 => failure
  | fuel + 1 => do
    match ← peek with
    | some .entry =>
      skip
      let item ← nodeUnless [.entry, .blockEnd]
        (node handles true false fuel)
      return item :: (← blockItems handles fuel)
    | _ => expect .blockEnd; return []

/-- The items of a sequence that shares the indentation of its key. -/
def flatItems (handles : List (String × Octets)) : Nat → Read (List Node)
  | 0 => failure
  | fuel + 1 => do
    match ← peek with
    | some .entry =>
      skip
      let item ← nodeUnless [.entry, .key, .value, .blockEnd]
        (node handles true false fuel)
      return item :: (← flatItems handles fuel)
    | _ => return []

/-- The members of a block up to its end. -/
def blockMembers (handles : List (String × Octets)) :
    Nat → Read (List (Node × Node))
  | 0 => failure
  | fuel + 1 => do
    let stops := [.key, .value, .blockEnd]
    match ← peek with
    | some .key =>
      skip
      let key ← nodeUnless stops (node handles true true fuel)
      let value ← valueUnless stops (node handles true true fuel)
      return (key, value) :: (← blockMembers handles fuel)
    | _ => expect .blockEnd; return []

/-- The items between square brackets.  A comma parts two, and may come
after the last.  A key with its value is a mapping of one member. -/
def flowItems (handles : List (String × Octets)) (isFirst : Bool) :
    Nat → Read (List Node)
  | 0 => failure
  | fuel + 1 => do
    if (← peek) == some .flowSequenceEnd then
      skip
      return []
    if !isFirst then expect .flowEntry
    let stops := [.flowEntry, .flowSequenceEnd]
    match ← peek with
    | some .flowSequenceEnd => skip; return []
    | some .key =>
      skip
      count 2
      let key ← nodeUnless (.value :: stops)
        (node handles false false fuel)
      let value ← valueUnless stops (node handles false false fuel)
      return .mapping [(key, value)] :: (← flowItems handles false fuel)
    | _ =>
      let item ← node handles false false fuel
      return item :: (← flowItems handles false fuel)

/-- The members between braces.  A comma parts two, and may come after
the last.  A key may lack its value. -/
def flowMembers (handles : List (String × Octets)) (isFirst : Bool) :
    Nat → Read (List (Node × Node))
  | 0 => failure
  | fuel + 1 => do
    if (← peek) == some .flowMappingEnd then
      skip
      return []
    if !isFirst then expect .flowEntry
    let stops := [.flowEntry, .flowMappingEnd]
    match ← peek with
    | some .flowMappingEnd => skip; return []
    | some .key =>
      skip
      let key ← nodeUnless (.value :: stops)
        (node handles false false fuel)
      let value ← valueUnless stops (node handles false false fuel)
      return (key, value) :: (← flowMembers handles false fuel)
    | _ =>
      let key ← node handles false false fuel
      count 1
      return (key, .empty) :: (← flowMembers handles false fuel)

end

/-! ## Documents -/

/-- The directives in front of a document: at most one version, which is
1.1 or 1.2, and handles, no two with one name.  The handles come with
those that need no declaration. -/
def directives : Nat → Option Unit → List (String × Octets) →
    Read (List (String × Octets))
  | 0, _, _ => failure
  | fuel + 1, version, handles => do
    match ← peek with
    | some (.version major minor) =>
      if version.isSome || major != 1 || !(minor == 1 || minor == 2) then
        failure
      skip
      directives fuel (some ()) handles
    | some (.handle name expansion) =>
      if (handles.lookup name).isSome then failure
      skip
      directives fuel version ((name, expansion) :: handles)
    | _ =>
      return handles ++ [("!", .ofText "!"),
        ("!!", .ofText "tag:yaml.org,2002:")]

/-- The document of the tokens.  Directives need a start mark behind
them.  Behind the document only end marks are left. -/
def document : Read Node := do
  let fuel := 2 * (← get).tokens.length + 2
  match ← peek with
  | none => return .empty
  | some first =>
    let handles ← directives fuel none []
    let node ←
      if (← peek) == some .documentStart then do
        skip
        match ← peek with
        | none | some (.version ..) | some (.handle ..)
        | some .documentStart | some .documentEnd => emptyScalar
        | _ => node handles true false fuel
      else
        match first with
        | .version .. | .handle .. => failure
        | _ => node handles true false fuel
    if (← get).tokens.all (· == .documentEnd) then return node
    else failure

end Read

/-- The document of a text that holds one; the empty scalar if it holds
none. -/
def document? (s : String) : Option Document := do
  let tokens ← tokens? s
  let (root, r) ← Read.document.run ⟨tokens, [], [], 0⟩
  return ⟨root, r.placed, r.size⟩

end PolicyWeave.Yaml
