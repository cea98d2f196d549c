import PolicyWeave.Command.Basic
import PolicyWeave.Template.Expression
import PolicyWeave.Template.Outline

/-!
# The trace command

The command shows what becomes of one template: its tokens, its parts,
and the key template that it compiles to for a method with the given
value parameters.  It ends with a code at the first step that fails.
-/

namespace PolicyWeave.Command

/-- How the command is called. -/
def traceUsage : String :=
  "Usage: cargo run --bin template_trace <template> [param ...]\n\n"
    ++ "Example:\n  cargo run --bin template_trace "
    ++ "'users:\x7bid\x7d:\x7bsha256(filter)\x7d' id filter"

/-- The method that a traced template belongs to. -/
def tracedMethod (params : List String) : Method :=
  { name := "method"
    params := params.map fun name =>
      ⟨name, "Value", .value, none⟩
    returns := ⟨"()", "()"⟩
    cache := none
    evict := none
    trace := none }

/-- The contract of that method. -/
def tracedContract (params : List String) : Contract :=
  ⟨"example", "Example", [tracedMethod params]⟩

/-- A text with blanks up to three characters. -/
def padding (s : String) : String :=
  String.ofList (List.replicate (3 - s.length) ' ')

/-- The line of a token. -/
def tokenLine (t : Token) : String :=
  let start := Number.natText t.span.start
  let stop := Number.natText t.span.stop
  "  " ++ padding start ++ start ++ ".." ++ stop ++ padding stop ++ " "
    ++ t.kind.describe ++ "\n"

/-- What is shown of the text and its tokens. -/
def showTokens (source : String) : String :=
  "TEMPLATE: " ++ source ++ "\n\nTOKENS:\n"
    ++ String.join ((Token.scan source).map tokenLine) ++ "\n"

/-- What is shown of the parts. -/
def showParts (t : Template) : String :=
  "AST:\n  canonical: " ++ t.text ++ "\n  " ++ t.outline.spread 0 ++ "\n\n"

/-- What is shown of the key template. -/
def showKey (k : KeyTemplate) : String :=
  "COMPILED:\n  segments: " ++ k.outline.line ++ "\n  depends on: "
    ++ k.dependencyOutline.line ++ "\n  rust: "
    ++ k.expression "::lacquer_runtime" ++ "\n"

/-- The command on a template and parameters. -/
def traceTemplate (source : String) (params : List String) : Transcript :=
  let out := showTokens source
  match Template.parse source with
  | .error e => .stopped 1 out ("parse failed: " ++ e.message)
  | .ok t =>
    let out := out ++ showParts t
    match KeyTemplate.compile .standard (tracedContract params)
        (tracedMethod params) source with
    | .error e => .stopped 1 out ("compile failed: " ++ e.message)
    | .ok k => .done (out ++ showKey k)

/-- The command. -/
def trace : List String → Transcript
  | [] => .stopped 1 "" traceUsage
  | source :: params => traceTemplate source params

end PolicyWeave.Command
