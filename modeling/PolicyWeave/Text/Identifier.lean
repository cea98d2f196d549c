/-!
# Identifiers

There are three groups.

* `isIdentifier` is the shape of a name: a letter or underscore, then
  letters, digits and underscores, all ASCII.
* `keywords` lists the words that name nothing in generated code.
* `snakeCase` and `upperSnakeCase` derive function and constant names
  from type names.
-/

namespace PolicyWeave.Text

/-! ## Shape -/

/-- A character that may start an identifier. -/
def isIdentStart (c : Char) : Bool :=
  c.isAlpha || c == '_'

/-- A character that may continue an identifier. -/
def isIdentRest (c : Char) : Bool :=
  c.isAlphanum || c == '_'

/-- The shape of an identifier, over characters. -/
def isIdentifierChars : List Char → Bool
  | [] => false
  | c :: cs => isIdentStart c && cs.all isIdentRest

/-- The shape of an identifier. -/
def isIdentifier (s : String) : Bool :=
  isIdentifierChars s.toList

/-! ## Reserved words -/

/-- The words that generated code cannot use as names. -/
def keywords : List String :=
  ["_", "as", "async", "await", "box", "break", "const", "continue",
    "crate", "do", "dyn", "else", "enum", "extern", "false", "final",
    "fn", "for", "gen", "if", "impl", "in", "let", "loop", "macro",
    "match", "mod", "move", "mut", "override", "priv", "pub", "ref",
    "return", "self", "Self", "static", "struct", "super", "trait",
    "true", "try", "type", "typeof", "unsafe", "unsized", "use",
    "virtual", "where", "while", "yield"]

/-- Whether a word is reserved. -/
def isKeyword (s : String) : Bool :=
  keywords.contains s

/-- A name that a contract, a method or a parameter may have. -/
def isItemName (s : String) : Bool :=
  isIdentifier s && !isKeyword s

/-! ## Case of names -/

/-- Whether an upper-case letter starts a new word, given its two
neighbours.  It does after a lower-case letter or a digit, and at the end
of a run of capitals, where the next letter is lower-case. -/
def startsWord (prev next : Option Char) : Bool :=
  match prev with
  | none => false
  | some p =>
    if p.isLower || p.isDigit then true
    else if p.isUpper then next.any Char.isLower
    else false

/-- Snake case, with the character already passed at hand. -/
def snakeCaseAfter (prev : Option Char) : List Char → List Char
  | [] => []
  | c :: cs =>
    if c.isUpper then
      (if startsWord prev cs.head? then ['_', c.toLower] else [c.toLower])
        ++ snakeCaseAfter (some c) cs
    else c :: snakeCaseAfter (some c) cs

/-- A type name as a function name: `UserService` gives `user_service`
and `HTTPClient` gives `http_client`. -/
def snakeCase (s : String) : String :=
  String.ofList (snakeCaseAfter none s.toList)

/-- A type name as a constant name. -/
def upperSnakeCase (s : String) : String :=
  String.ofList ((snakeCaseAfter none s.toList).map Char.toUpper)

end PolicyWeave.Text
