import PolicyWeave.Contract.Basic
import PolicyWeave.Template.Error

/-!
# Errors of contracts and methods

* `ValidationError` is a rule of the model that a contract breaks.
* `MethodError` attributes an error to one method of one contract.  An
  error of a template also holds the text of the template.
-/

namespace PolicyWeave

open Number (Double)

/-- A broken rule of the model. -/
inductive ValidationError where
  | invalidIdentifier (kind name : String)
  | duplicate (kind name : String)
  | misplacedContext (name : String)
  | percentOutOfRange (field : String) (value : Double)
  | zeroTtl
  | mutableCacheParam (name : String)
  | emptyEvictPolicy
  | unknownTraceAttribute (name : String)
  deriving DecidableEq, Repr

namespace ValidationError

/-- The name of the kind of error. -/
def kind : ValidationError → String
  | invalidIdentifier _ _ => "InvalidIdentifier"
  | duplicate _ _ => "Duplicate"
  | misplacedContext _ => "MisplacedContext"
  | percentOutOfRange _ _ => "PercentOutOfRange"
  | zeroTtl => "ZeroTtl"
  | mutableCacheParam _ => "MutableCacheParam"
  | emptyEvictPolicy => "EmptyEvictPolicy"
  | unknownTraceAttribute _ => "UnknownTraceAttribute"

/-- The sentence of the error. -/
def message : ValidationError → String
  | invalidIdentifier kind name =>
    "invalid identifier '" ++ name ++ "' for " ++ kind
  | duplicate kind name => "duplicate " ++ kind ++ " '" ++ name ++ "'"
  | misplacedContext name =>
    "context parameter '" ++ name ++ "' must be the first parameter"
  | percentOutOfRange field value =>
    field ++ " must be in [0, 100), got " ++ value.messageText
  | zeroTtl => "cache ttl must be positive"
  | mutableCacheParam name =>
    "cached method cannot take '" ++ name ++ "' by mutable reference"
  | emptyEvictPolicy => "evict policy requires at least one key template"
  | unknownTraceAttribute name =>
    "trace attribute '" ++ name ++ "' is not a value parameter"

end ValidationError

/-- What went wrong in a method. -/
inductive MethodFault where
  | template (e : TemplateError)
  | validation (e : ValidationError)
  deriving DecidableEq, Repr

/-- The sentence of a fault. -/
def MethodFault.message : MethodFault → String
  | template e => e.message
  | validation e => e.message

/-- The name of the kind of fault. -/
def MethodFault.kind : MethodFault → String
  | template e => "Template." ++ e.kind
  | validation e => "Validation." ++ e.kind

/-- A fault of one method of one contract. -/
structure MethodError where
  contract : String
  method : String
  template : Option String
  fault : MethodFault
  deriving DecidableEq, Repr

namespace MethodError

/-- A template error in a method. -/
def ofTemplate (contract method template : String) (e : TemplateError) :
    MethodError :=
  ⟨contract, method, some template, .template e⟩

/-- A broken rule in a method. -/
def ofValidation (contract method : String) (e : ValidationError) :
    MethodError :=
  ⟨contract, method, none, .validation e⟩

/-- The sentence of the error, with its place in front and the template
behind. -/
def message (e : MethodError) : String :=
  e.contract ++ "." ++ e.method ++ ": " ++ e.fault.message
    ++ (match e.template with
        | none => ""
        | some t => " in template \"" ++ t ++ "\"")

end MethodError

end PolicyWeave
