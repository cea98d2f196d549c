import PolicyWeave.Duration

/-!
# Errors of configuration

What can be wrong with a setting, with a duration, or with a text that a
configuration or a model is read from.
-/

namespace PolicyWeave

/-- A fault of a configuration, or of a text that could not be loaded. -/
inductive ConfigError where
  | invalidDuration (value : String)
  | invalidValue (field value reason : String)
  | yamlParse (reason : String)
  | tomlParse (reason : String)
  deriving DecidableEq, Repr

namespace ConfigError

/-- The name of the kind of error. -/
def kind : ConfigError → String
  | invalidDuration _ => "InvalidDuration"
  | invalidValue _ _ _ => "InvalidValue"
  | yamlParse _ => "YamlParse"
  | tomlParse _ => "TomlParse"

/-- The sentence of the error. -/
def message : ConfigError → String
  | invalidDuration value => "invalid duration format: " ++ value
  | invalidValue field value reason =>
    "Invalid value for " ++ field ++ ": " ++ value ++ " - " ++ reason
  | yamlParse reason => "YAML parse error: " ++ reason
  | tomlParse reason => "TOML parse error: " ++ reason

end ConfigError

/-- The duration of a text, or an error that holds the text without the
blanks at its ends. -/
def Duration.read (s : String) : Except ConfigError Duration :=
  match Duration.parse? s with
  | some d => .ok d
  | none =>
    .error (.invalidDuration (String.ofList (Text.trim s.toList)))

end PolicyWeave
