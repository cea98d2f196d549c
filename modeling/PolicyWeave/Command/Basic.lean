/-!
# Commands

What a command sees of the system, and what it leaves behind.
-/

namespace PolicyWeave

/-- A reason for which a file has no text. -/
inductive FileFault where
  | missing
  | directory
  | denied
  | notText
  deriving DecidableEq, Repr

/-- The sentence of a fault. -/
def FileFault.message : FileFault → String
  | missing => "No such file or directory (os error 2)"
  | directory => "Is a directory (os error 21)"
  | denied => "Permission denied (os error 13)"
  | notText => "stream did not contain valid UTF-8"

/-- What a command can look at: the files by their paths, and the runtime
path of the environment. -/
structure Surroundings where
  read : String → Except FileFault String
  runtimePath : Option String

/-- What a command leaves behind: its exit code and its two outputs. -/
structure Transcript where
  code : Nat
  out : String
  err : String
  deriving DecidableEq, Repr

namespace Transcript

/-- A command that did its work and printed a text. -/
def done (out : String) : Transcript := ⟨0, out, ""⟩

/-- A command that ended with a code after printing a text and a line of
complaint. -/
def stopped (code : Nat) (out complaint : String) : Transcript :=
  ⟨code, out, complaint ++ "\n"⟩

end Transcript

end PolicyWeave
