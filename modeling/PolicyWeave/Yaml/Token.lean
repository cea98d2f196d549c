/-!
# Tokens of YAML

What a YAML text consists of, in reading order.  Blocks have no brackets
in the text: a token opens each, and one closes it where the indentation
falls back.
-/

namespace PolicyWeave.Yaml

/-- The way a scalar is written. -/
inductive ScalarStyle where
  | plain
  | singleQuoted
  | doubleQuoted
  | literal
  | folded
  deriving DecidableEq, Repr

/-- The octets of a tag, which need not be the encoding of a text. -/
abbrev Octets := List UInt8

/-- The octets of a text. -/
def Octets.ofText (s : String) : Octets := s.toUTF8.toList

/-- The text that octets encode, if they encode one. -/
def Octets.text? (octets : Octets) : Option String :=
  String.fromUTF8? ⟨octets.toArray⟩

/-- A tag as written: whole, or a handle with what follows it. -/
inductive TagName where
  | whole (octets : Octets)
  | short (handle : String) (suffix : Octets)
  deriving DecidableEq, Repr

/-- A part of a text. -/
inductive Token where
  | version (major minor : Nat)
  | handle (name : String) (expansion : Octets)
  | documentStart
  | documentEnd
  | blockSequence
  | blockMapping
  | blockEnd
  | flowSequence
  | flowSequenceEnd
  | flowMapping
  | flowMappingEnd
  | flowEntry
  | entry
  | key
  | value
  | reference (name : String)
  | anchor (name : String)
  | tag (name : TagName)
  | scalar (style : ScalarStyle) (text : String)
  deriving DecidableEq, Repr

end PolicyWeave.Yaml
