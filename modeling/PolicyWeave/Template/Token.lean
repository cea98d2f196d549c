import PolicyWeave.Template.Error

/-!
# Template tokens

A token has a kind and a span of byte positions.  Literal text stands
outside placeholders only, names and punctuation inside them only.  A
run of tokens ends with `finish` or with one `fault`.
-/

namespace PolicyWeave

/-- A range of byte positions, the end excluded. -/
structure Span where
  start : Nat
  stop : Nat
  deriving DecidableEq, Repr

/-- The kinds of tokens. -/
inductive TokenKind where
  | text (s : String)
  | openBrace
  | closeBrace
  | openParen
  | closeParen
  | comma
  | dot
  | identifier (name : String)
  | finish
  | fault (e : TemplateError)
  deriving DecidableEq, Repr

/-- A token at its place. -/
structure Token where
  kind : TokenKind
  span : Span
  deriving DecidableEq, Repr

namespace TokenKind

/-- The name of the kind. -/
def name : TokenKind → String
  | text _ => "Text"
  | openBrace => "LBrace"
  | closeBrace => "RBrace"
  | openParen => "LParen"
  | closeParen => "RParen"
  | comma => "Comma"
  | dot => "Dot"
  | identifier _ => "Identifier"
  | finish => "Eof"
  | fault _ => "Error"

/-- The token as messages call it. -/
def describe : TokenKind → String
  | text _ => "literal text"
  | openBrace => "'\x7b'"
  | closeBrace => "'\x7d'"
  | openParen => "'('"
  | closeParen => "')'"
  | comma => "','"
  | dot => "'.'"
  | identifier name => "identifier '" ++ name ++ "'"
  | finish => "end of template"
  | fault e => e.message

/-- The error of a fault. -/
def fault? : TokenKind → Option TemplateError
  | fault e => some e
  | _ => none

/-- Whether a run of tokens ends with this kind. -/
def isTerminal : TokenKind → Bool
  | finish => true
  | fault _ => true
  | _ => false

end TokenKind

end PolicyWeave
