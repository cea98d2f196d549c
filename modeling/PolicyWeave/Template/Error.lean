import PolicyWeave.Number.Layout

/-!
# Template errors

What can be wrong with a key template, from its characters up to its
names.  Each error holds the byte position that it points at.
-/

namespace PolicyWeave

open Number (natText)

/-- A fault of a key template. -/
inductive TemplateError where
  | unterminatedPlaceholder (position : Nat)
  | nestedPlaceholder (position : Nat)
  | unmatchedClose (position : Nat)
  | emptyPlaceholder (position : Nat)
  | unexpectedToken (found expected : String) (position : Nat)
  | unknownParameter (name : String) (position : Nat)
  | unknownField (param field : String) (position : Nat)
  | contextOperand (name : String) (position : Nat)
  | unknownBuiltin (name : String) (position : Nat)
  | wrongArity (name expected : String) (got position : Nat)
  deriving DecidableEq, Repr

namespace TemplateError

/-- The byte position that the error points at. -/
def position : TemplateError → Nat
  | unterminatedPlaceholder p => p
  | nestedPlaceholder p => p
  | unmatchedClose p => p
  | emptyPlaceholder p => p
  | unexpectedToken _ _ p => p
  | unknownParameter _ p => p
  | unknownField _ _ p => p
  | contextOperand _ p => p
  | unknownBuiltin _ p => p
  | wrongArity _ _ _ p => p

/-- The error pointing `n` bytes further. -/
def shift (n : Nat) : TemplateError → TemplateError
  | unterminatedPlaceholder p => unterminatedPlaceholder (p + n)
  | nestedPlaceholder p => nestedPlaceholder (p + n)
  | unmatchedClose p => unmatchedClose (p + n)
  | emptyPlaceholder p => emptyPlaceholder (p + n)
  | unexpectedToken f e p => unexpectedToken f e (p + n)
  | unknownParameter s p => unknownParameter s (p + n)
  | unknownField q f p => unknownField q f (p + n)
  | contextOperand s p => contextOperand s (p + n)
  | unknownBuiltin s p => unknownBuiltin s (p + n)
  | wrongArity s e g p => wrongArity s e g (p + n)

/-- Shifting an error shifts its position. -/
@[simp] theorem position_shift (n : Nat) (e : TemplateError) :
    (e.shift n).position = e.position + n := by
  cases e <;> rfl

/-- The name of the kind of error. -/
def kind : TemplateError → String
  | unterminatedPlaceholder _ => "UnterminatedPlaceholder"
  | nestedPlaceholder _ => "NestedPlaceholder"
  | unmatchedClose _ => "UnmatchedClose"
  | emptyPlaceholder _ => "EmptyPlaceholder"
  | unexpectedToken _ _ _ => "UnexpectedToken"
  | unknownParameter _ _ => "UnknownParameter"
  | unknownField _ _ _ => "UnknownField"
  | contextOperand _ _ => "ContextOperand"
  | unknownBuiltin _ _ => "UnknownBuiltin"
  | wrongArity _ _ _ _ => "WrongArity"

/-- The sentence of the error. -/
def message : TemplateError → String
  | unterminatedPlaceholder p =>
    "unterminated placeholder opened at " ++ natText p
  | nestedPlaceholder p => "nested placeholder at " ++ natText p
  | unmatchedClose p => "unmatched '\x7d' at " ++ natText p
  | emptyPlaceholder p => "empty placeholder at " ++ natText p
  | unexpectedToken found expected p =>
    "unexpected " ++ found ++ " at " ++ natText p ++ ", expected "
      ++ expected
  | unknownParameter name p =>
    "unknown parameter '" ++ name ++ "' at " ++ natText p
  | unknownField param field p =>
    "unknown field '" ++ field ++ "' on parameter '" ++ param ++ "' at "
      ++ natText p
  | contextOperand name p =>
    "context parameter '" ++ name
      ++ "' cannot be a template operand (at " ++ natText p ++ ")"
  | unknownBuiltin name p =>
    "unknown builtin '" ++ name ++ "' at " ++ natText p
  | wrongArity name expected got p =>
    "builtin '" ++ name ++ "' expects " ++ expected
      ++ " argument(s), got " ++ natText got ++ " (at " ++ natText p ++ ")"

end TemplateError

end PolicyWeave
