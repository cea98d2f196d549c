import PolicyWeave.Config.Basic
import PolicyWeave.Contract.Error

/-!
# Failures

Any error of the program with the sentence that names its area.
-/

namespace PolicyWeave

/-- An error of one of the four areas. -/
inductive Failure where
  | template (e : TemplateError)
  | validation (e : ValidationError)
  | config (e : ConfigError)
  | method (e : MethodError)
  deriving DecidableEq, Repr

/-- The sentence of a failure, with its area in front. -/
def Failure.message : Failure → String
  | template e => "Template error: " ++ e.message
  | validation e => "Validation error: " ++ e.message
  | config e => "Config error: " ++ e.message
  | method e => "Method error: " ++ e.message

end PolicyWeave
