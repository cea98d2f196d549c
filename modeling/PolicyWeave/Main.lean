import PolicyWeave.Command.Generate
import PolicyWeave.Command.Trace

/-!
# The program

The generator command on the given arguments, or the trace command on
those behind `--trace`.
-/

open PolicyWeave

/-- The text of a file of the system, or the reason that it has none. -/
def readFileText (path : String) : IO (Except FileFault String) := do
  try
    let bytes ← IO.FS.readBinFile path
    match String.fromUTF8? bytes with
    | some text => return .ok text
    | none => return .error .notText
  catch e =>
    match e with
    | .inappropriateType .. => return .error .directory
    | .permissionDenied .. => return .error .denied
    | _ => return .error .missing

/-- The texts of the files that the arguments name. -/
def surroundings (paths : List String) : IO Surroundings := do
  let files ← paths.mapM fun path => return (path, ← readFileText path)
  let runtimePath ← IO.getEnv "LACQUER_RUNTIME_PATH"
  return ⟨fun path => (files.lookup path).getD (.error .missing),
    runtimePath⟩

/-- The command that the arguments ask for. -/
def transcript (args : List String) : IO Transcript := do
  match args with
  | "--trace" :: args => return Command.trace args
  | _ => return Command.generate (← surroundings args) args

def main (args : List String) : IO UInt32 := do
  let t ← transcript args
  IO.print t.out
  IO.eprint t.err
  return t.code.toUInt32
