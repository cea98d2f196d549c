import PolicyWeave.Yaml.Block
import PolicyWeave.Yaml.Name
import PolicyWeave.Yaml.Quoted

/-!
# From text to tokens

A text is read from left to right, one token at a time.  Two things are
known only later.  A token may turn out to start a key, when a colon
follows on its line; its place is kept for that.  A block ends where a
line starts further left than the block does.

There are four groups.

* `Scan`, the state between two tokens.
* Keys and indentation.
* The tokens, by the character that each starts with.
* `tokens?`, the tokens of a whole text.
-/

namespace PolicyWeave.Yaml

/-! ## State -/

/-- A place where a key may have started.  A key is needed there when the
token is the first of its line in a block, since a block goes on with
keys only. -/
structure KeyPlace where
  index : Nat
  line : Nat
  column : Nat
  needed : Bool

/-- The state between two tokens.  The level of a block is one more than
its column, and zero outside blocks.  There is one possible key for each
bracket that is open, innermost first, and one outside them. -/
structure Scan where
  cursor : Cursor
  tokens : Array Token
  possibleKey : Option KeyPlace
  outerKeys : List (Option KeyPlace)
  keyAllowed : Bool
  level : Nat
  outerLevels : List Nat

namespace Scan

/-- The state in front of a text. -/
def start (cs : List Char) : Scan :=
  ⟨⟨cs, 0, 0⟩, #[], none, [], true, 0, []⟩

/-- Whether a bracket is open. -/
def inFlow (s : Scan) : Bool := !s.outerKeys.isEmpty

/-- The state with one more token. -/
def push (s : Scan) (t : Token) : Scan :=
  { s with tokens := s.tokens.push t }

/-- The state a number of characters further. -/
def advance (s : Scan) (n : Nat) : Scan :=
  { s with cursor := s.cursor.advance n }

/-- The state at what is left of the line. -/
def goTo (s : Scan) (rest : List Char) : Scan :=
  s.advance (s.cursor.rest.length - rest.length)

/-! ## Keys and indentation -/

/-- The state in which no key can have started at the last place; none if
one had to. -/
def dropKey? (s : Scan) : Option Scan :=
  if s.possibleKey.any KeyPlace.needed then none
  else some { s with possibleKey := none }

/-- The state in which a key may start here, where keys are allowed. -/
def markKey? (s : Scan) : Option Scan :=
  if s.keyAllowed then do
    let needed := !s.inFlow && s.level == s.cursor.column + 1
    let s ← s.dropKey?
    let cur := s.cursor
    let place : KeyPlace := ⟨s.tokens.size, cur.line, cur.column, needed⟩
    return { s with possibleKey := some place }
  else some s

/-- Whether a place is too far back for its key to be followed by a colon
here: on another line, or more than 1024 columns away. -/
def outdated (s : Scan) (k : KeyPlace) : Bool :=
  k.line < s.cursor.line || k.column + 1024 < s.cursor.column

/-- A possible key if it is not outdated; an outdated one is refused if
it is needed. -/
def renewKey? (s : Scan) : Option KeyPlace → Option (Option KeyPlace)
  | none => some none
  | some k =>
    if s.outdated k then if k.needed then none else some none
    else some (some k)

/-- The state without outdated keys. -/
def renewKeys? (s : Scan) : Option Scan := do
  let possibleKey ← s.renewKey? s.possibleKey
  let outerKeys ← s.outerKeys.mapM s.renewKey?
  return { s with possibleKey, outerKeys }

/-- The state with a block opened at a column, if that is right of the
last one.  Its token goes to an index among the tokens. -/
def openBlock (s : Scan) (column index : Nat) (t : Token) : Scan :=
  if !s.inFlow && s.level < column + 1 then
    { s with
      tokens := s.tokens.insertIdxIfInBounds index t
      level := column + 1
      outerLevels := s.level :: s.outerLevels }
  else s

/-- The state with the blocks closed whose level is above the given
one. -/
def closeBlocks (least : Nat) (s : Scan) : Scan :=
  go s.outerLevels s
where
  /-- The state with blocks closed, given the levels around them. -/
  go : List Nat → Scan → Scan
    | [], s => s
    | outer :: outers, s =>
      if least < s.level then
        go outers
          { s.push .blockEnd with level := outer, outerLevels := outers }
      else s

/-- The state with the blocks closed that a column is left of. -/
def closeBlocksAt (column : Nat) (s : Scan) : Scan :=
  if s.inFlow then s else s.closeBlocks (column + 1)

/-- The state with all blocks closed, and no key possible or allowed. -/
def closeAll? (s : Scan) : Option Scan :=
  let s := if s.inFlow then s else s.closeBlocks 0
  s.dropKey?.map fun s => { s with keyAllowed := false }

/-! ## Blanks -/

/-- The state before the next token.  Blanks, comments and breaks are
skipped; in blocks a tab counts as a blank only behind a token, and a
break allows a key.  A byte order mark may start a line. -/
def skipBlanks : Nat → Scan → Scan
  | 0, s => s
  | fuel + 1, s =>
    let cur := s.cursor
    let cur :=
      if cur.column == 0 && cur.nextIs (· == '\uFEFF') then cur.advance 1
      else cur
    let tabs := s.inFlow || !s.keyAllowed
    let cur := cur.skipWhile fun c => c == ' ' || tabs && c == '\t'
    let cur :=
      if cur.nextIs (· == '#') then cur.skipWhile fun c => !isBreak c
      else cur
    if cur.nextIs isBreak then
      skipBlanks fuel { s with
        cursor := cur.newline
        keyAllowed := s.keyAllowed || !s.inFlow }
    else { s with cursor := cur }

/-! ## Tokens -/

/-- The mark that starts or ends a document. -/
def documentMark? (s : Scan) (t : Token) : Option Scan :=
  s.closeAll?.map fun s => (s.advance 3).push t

/-- A directive and the end of its line. -/
def directive? (s : Scan) : Option Scan := do
  let s ← s.closeAll?
  let (t, rest) ← scanDirective? (s.cursor.rest.drop 1)
  let s := s.goTo rest
  let cursor ← s.cursor.lineEnd?
  return { s with cursor }.push t

/-- An opening bracket. -/
def openFlow? (s : Scan) (t : Token) : Option Scan := do
  let s ← s.markKey?
  return { (s.advance 1).push t with
    possibleKey := none
    outerKeys := s.possibleKey :: s.outerKeys
    keyAllowed := true }

/-- A closing bracket. -/
def closeFlow? (s : Scan) (t : Token) : Option Scan := do
  let s ← s.dropKey?
  let s := { (s.advance 1).push t with keyAllowed := false }
  match s.outerKeys with
  | [] => return s
  | k :: ks => return { s with possibleKey := k, outerKeys := ks }

/-- A comma between brackets. -/
def flowEntry? (s : Scan) : Option Scan := do
  let s ← s.dropKey?
  return { (s.advance 1).push .flowEntry with keyAllowed := true }

/-- The state in which a block of a kind goes on here. -/
def continueBlock? (s : Scan) (t : Token) : Option Scan :=
  if s.inFlow then some s
  else if s.keyAllowed then
    some (s.openBlock s.cursor.column s.tokens.size t)
  else none

/-- A dash in front of an item. -/
def entry? (s : Scan) : Option Scan := do
  let s ← s.continueBlock? .blockSequence
  let s ← s.dropKey?
  return { (s.advance 1).push .entry with keyAllowed := true }

/-- A question mark in front of a key. -/
def key? (s : Scan) : Option Scan := do
  let s ← s.continueBlock? .blockMapping
  let s ← s.dropKey?
  return { (s.advance 1).push .key with keyAllowed := !s.inFlow }

/-- A colon in front of a value.  If a key may have started, it did. -/
def value? (s : Scan) : Option Scan :=
  match s.possibleKey with
  | some k =>
    let s := { s with
      tokens := s.tokens.insertIdxIfInBounds k.index .key
      possibleKey := none
      keyAllowed := false }
    let s := s.openBlock k.column k.index .blockMapping
    some ((s.advance 1).push .value)
  | none => do
    let s ← s.continueBlock? .blockMapping
    return { (s.advance 1).push .value with keyAllowed := !s.inFlow }

/-- A token that is a name, after its sign. -/
def name? (s : Scan) (make : String → Token) : Option Scan := do
  let s ← s.markKey?
  let (name, rest) ← scanAnchor? (s.cursor.rest.drop 1)
  return { (s.goTo rest).push (make name) with keyAllowed := false }

/-- A tag. -/
def tag? (s : Scan) : Option Scan := do
  let s ← s.markKey?
  let (name, rest) ← scanTag? s.inFlow (s.cursor.rest.drop 1)
  return { (s.goTo rest).push (.tag name) with keyAllowed := false }

/-- A block scalar. -/
def block? (s : Scan) (fold : Bool) : Option Scan := do
  let s ← s.dropKey?
  let (text, cursor) ← s.cursor.block? fold s.level
  let style := if fold then .folded else .literal
  return { s with cursor, keyAllowed := true }.push (.scalar style text)

/-- A quoted scalar. -/
def quoted? (s : Scan) (quote : Char) : Option Scan := do
  let s ← s.markKey?
  let (text, cursor) ← s.cursor.quoted? quote
  let style := if quote == '"' then .doubleQuoted else .singleQuoted
  return { s with cursor, keyAllowed := false }.push (.scalar style text)

/-- A plain scalar. -/
def plain? (s : Scan) : Option Scan := do
  let s ← s.markKey?
  let (text, crossed, cursor) ← s.cursor.plain? s.inFlow s.level
  return { s with cursor, keyAllowed := crossed }.push
    (.scalar .plain text)

/-- Whether a plain scalar may start with a character, given what follows
it. -/
def startsPlain (inFlow : Bool) (c : Char) (cs : List Char) : Bool :=
  if c == '-' then !cs.head?.any isBlank
  else if c == '?' || c == ':' then !inFlow && !atEdge cs
  else !(isSpacing c
    || [',', '[', ']', '{', '}', '#', '&', '*', '!', '|', '>', '\'', '"',
      '%', '@', '\x60'].contains c)

/-- The state after the token that starts with a character. -/
def token? (s : Scan) (c : Char) (cs : List Char) : Option Scan :=
  if s.cursor.column == 0 && c == '%' then s.directive?
  else if s.cursor.atMark '-' then s.documentMark? .documentStart
  else if s.cursor.atMark '.' then s.documentMark? .documentEnd
  else if c == '[' then s.openFlow? .flowSequence
  else if c == '{' then s.openFlow? .flowMapping
  else if c == ']' then s.closeFlow? .flowSequenceEnd
  else if c == '}' then s.closeFlow? .flowMappingEnd
  else if c == ',' then s.flowEntry?
  else if c == '-' && atEdge cs then s.entry?
  else if c == '?' && (s.inFlow || atEdge cs) then s.key?
  else if c == ':' && (s.inFlow || atEdge cs) then s.value?
  else if c == '*' then s.name? .reference
  else if c == '&' then s.name? .anchor
  else if c == '!' then s.tag?
  else if c == '|' && !s.inFlow then s.block? false
  else if c == '>' && !s.inFlow then s.block? true
  else if c == '\'' || c == '"' then s.quoted? c
  else if startsPlain s.inFlow c cs then s.plain?
  else none

/-! ## Whole texts -/

/-- The tokens from a state to the end of the text. -/
def finish? : Nat → Scan → Option (List Token)
  | 0, _ => none
  | fuel + 1, s => do
    let s := s.skipBlanks (s.cursor.rest.length + 1)
    let s ← s.renewKeys?
    let s := s.closeBlocksAt s.cursor.column
    match s.cursor.rest with
    | c :: cs =>
      let s ← s.token? c cs
      finish? fuel s
    | [] =>
      let s ← s.closeAll?
      return s.tokens.toList

end Scan

/-- The tokens of a text; none if it holds a character that it may not,
or something that is no token. -/
def tokens? (s : String) : Option (List Token) :=
  let cs := s.toList
  if cs.all isAllowed then
    (Scan.start (unifyBreaks cs)).finish? (cs.length + 1)
  else none

end PolicyWeave.Yaml
