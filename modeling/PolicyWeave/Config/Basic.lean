import PolicyWeave.Config.Error
import PolicyWeave.Text.Identifier
import PolicyWeave.Text.Lines
import PolicyWeave.Json.Reader

/-!
# Configuration

What shapes generated files beside the policies: two paths, the header,
and whether decorator stacks are generated.

`Config.fault?` is the first setting that generated code could not carry:
a path that is no path, or a header line that is no comment.
-/

namespace PolicyWeave

/-- The settings of generated files. -/
structure Config where
  runtimePath : String
  asyncTraitPath : String
  header : String
  emitDelegator : Bool
  deriving DecidableEq, Repr

namespace Config

/-- The settings that count where nothing else is said. -/
def standard : Config :=
  { runtimePath := "::lacquer_runtime"
    asyncTraitPath := "::async_trait::async_trait"
    header := "// Code generated by lacquer. DO NOT EDIT."
    emitDelegator := true }

/-- The pieces of a path between its separators. -/
def pathSegments : List Char → List (List Char)
  | ':' :: ':' :: rest => [] :: pathSegments rest
  | [] => [[]]
  | c :: rest =>
    match pathSegments rest with
    | [] => [[c]]
    | piece :: pieces => (c :: piece) :: pieces

/-- Whether a text is a path of identifiers, with or without a separator
in front. -/
def isPath (s : String) : Bool :=
  let body :=
    match s.toList with
    | ':' :: ':' :: rest => rest
    | cs => cs
  !body.isEmpty && (pathSegments body).all Text.isIdentifierChars

/-- Whether a line of a header is blank or a comment. -/
def isHeaderLine (line : List Char) : Bool :=
  match Text.trimStart line with
  | [] => true
  | '/' :: '/' :: _ => true
  | _ => false

/-- The error of a path setting. -/
def pathFault? (field value : String) : Option ConfigError :=
  if isPath value then none
  else
    some (.invalidValue field value
      "must be a Rust path such as ::crate_name::module")

/-- The error of a header. -/
def headerFault? (header : String) : Option ConfigError :=
  if (Text.lines header.toList).all isHeaderLine then none
  else
    some (.invalidValue "header" header
      "every header line must be a // comment")

/-- The first setting that generated code could not carry. -/
def fault? (c : Config) : Option ConfigError :=
  pathFault? "runtime_path" c.runtimePath
    <|> pathFault? "async_trait_path" c.asyncTraitPath
    <|> headerFault? c.header

/-- The settings with the runtime path of the environment, if it has
one. -/
def withRuntimePath (c : Config) (path : Option String) : Config :=
  { c with runtimePath := path.getD c.runtimePath }

/-- The settings of a JSON value; those that are missing keep their
standard values. -/
def ofJson? (v : Json) : Option Config := do
  match ← Json.reader.fields? ["runtime_path", "async_trait_path",
      "header", "emit_delegator"] v with
  | [runtimePath, asyncTraitPath, header, emitDelegator] =>
    let runtimePath ←
      Reader.orDefault standard.runtimePath Json.string? runtimePath
    let asyncTraitPath ←
      Reader.orDefault standard.asyncTraitPath Json.string? asyncTraitPath
    let header ← Reader.orDefault standard.header Json.string? header
    let emitDelegator ←
      Reader.orDefault standard.emitDelegator Json.bool? emitDelegator
    return ⟨runtimePath, asyncTraitPath, header, emitDelegator⟩
  | _ => none

end Config

end PolicyWeave
