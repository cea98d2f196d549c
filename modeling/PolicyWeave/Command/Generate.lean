import PolicyWeave.Command.Basic
import PolicyWeave.Config.Toml
import PolicyWeave.Contract.Yaml
import PolicyWeave.Failure
import PolicyWeave.Generation

/-!
# The generator command

The command takes a model and maybe a configuration.  It prints the file
of every contract; if contracts failed, it also prints their errors and
ends with a code.  The configuration is read and checked first, so its
errors win over those of the model.
-/

namespace PolicyWeave.Command

/-- How the command is called. -/
def generateUsage : String :=
  "Usage: lacquer-gen <model.yaml> [config.toml]\n\nExample:\n"
    ++ "  lacquer-gen policies/users.yaml lacquer.toml"
    ++ " > src/users/decorators.rs"

/-- The text of a file, or the complaint that it has none. -/
def readText (s : Surroundings) (path : String) : Except String String :=
  (s.read path).mapError fun fault =>
    "Failed to read " ++ path ++ ": " ++ fault.message

/-- The configuration of a file, or the standard one. -/
def readConfig (s : Surroundings) :
    Option String → Except String Config
  | none => .ok .standard
  | some path => do
    let text ← readText s path
    (Config.fromToml text).mapError fun e =>
      "Invalid config " ++ path ++ ": " ++ (Failure.config e).message

/-- The configuration with the runtime path of the environment, if it is
sound. -/
def settle (s : Surroundings) (c : Config) : Except String Config :=
  let c := c.withRuntimePath s.runtimePath
  match c.fault? with
  | none => .ok c
  | some e => .error ("Invalid config: " ++ (Failure.config e).message)

/-- The model of a file. -/
def readModel (s : Surroundings) (path : String) :
    Except String PolicyModel := do
  let text ← readText s path
  (PolicyModel.load text).mapError fun e =>
    "Failed to load " ++ path ++ ": " ++ e.message

/-- The report of a model and a configuration, or a complaint. -/
def prepare (s : Surroundings) (model : String) (config : Option String) :
    Except String Report := do
  let config ← settle s (← readConfig s config)
  let model ← readModel s model
  return model.generate config .standard

/-- The summary of a report with failures. -/
def summary (r : Report) : String :=
  Number.natText r.outputs.length ++ " contract(s) generated, "
    ++ Number.natText r.failures.length ++ " failed"

/-- What the command prints of a report. -/
def announce (r : Report) : Transcript :=
  let out := String.join (r.outputs.map fun f => f.source ++ "\n")
  if r.isSuccess then .done out
  else
    .stopped 1 out
      (String.join (r.errors.map fun e => "error: " ++ e.message ++ "\n")
        ++ summary r)

/-- The command on a model and maybe a configuration. -/
def generateFrom (s : Surroundings) (model : String)
    (config : Option String) : Transcript :=
  match prepare s model config with
  | .ok r => announce r
  | .error complaint => .stopped 1 "" complaint

/-- The command. -/
def generate (s : Surroundings) : List String → Transcript
  | [model] => generateFrom s model none
  | [model, config] => generateFrom s model (some config)
  | _ => .stopped 2 "" generateUsage

end PolicyWeave.Command
