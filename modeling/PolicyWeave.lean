import PolicyWeave.Cache.Entry
import PolicyWeave.Cache.Error
import PolicyWeave.Cache.Jitter
import PolicyWeave.Cache.Layer
import PolicyWeave.Cache.Lock
import PolicyWeave.Cache.Operation
import PolicyWeave.Cache.Schedule
import PolicyWeave.Cache.Script
import PolicyWeave.Cache.Store
import PolicyWeave.Cache.World
import PolicyWeave.Command.Basic
import PolicyWeave.Command.Generate
import PolicyWeave.Command.Trace
import PolicyWeave.Config.Basic
import PolicyWeave.Config.Error
import PolicyWeave.Config.Toml
import PolicyWeave.Contract.Basic
import PolicyWeave.Contract.Decode
import PolicyWeave.Contract.Encode
import PolicyWeave.Contract.Error
import PolicyWeave.Contract.Reference
import PolicyWeave.Contract.Validation
import PolicyWeave.Contract.Yaml
import PolicyWeave.Data.Outline
import PolicyWeave.Data.Reader
import PolicyWeave.Data.Table
import PolicyWeave.Decoration
import PolicyWeave.Digest.Base64
import PolicyWeave.Digest.Sha256
import PolicyWeave.Duration
import PolicyWeave.Event
import PolicyWeave.Failure
import PolicyWeave.Generation
import PolicyWeave.Json.Basic
import PolicyWeave.Json.Parser
import PolicyWeave.Json.Printer
import PolicyWeave.Json.Reader
import PolicyWeave.Key.Datum
import PolicyWeave.Key.Render
import PolicyWeave.Main
import PolicyWeave.Number.Binary
import PolicyWeave.Number.Layout
import PolicyWeave.Number.Reading
import PolicyWeave.Number.Shortest
import PolicyWeave.Plan
import PolicyWeave.Proofs.Cache.Answers
import PolicyWeave.Proofs.Cache.Background
import PolicyWeave.Proofs.Cache.Calls
import PolicyWeave.Proofs.Cache.Contents
import PolicyWeave.Proofs.Cache.Coupling
import PolicyWeave.Proofs.Cache.Eviction
import PolicyWeave.Proofs.Cache.Guards
import PolicyWeave.Proofs.Cache.Jitter
import PolicyWeave.Proofs.Cache.Locking
import PolicyWeave.Proofs.Cache.Matching
import PolicyWeave.Proofs.Cache.Meaning
import PolicyWeave.Proofs.Cache.Moves
import PolicyWeave.Proofs.Cache.Protocol
import PolicyWeave.Proofs.Cache.Retention
import PolicyWeave.Proofs.Cache.Submission
import PolicyWeave.Proofs.Cache.Transcript
import PolicyWeave.Proofs.Cache.Transparency
import PolicyWeave.Proofs.Config.Paths
import PolicyWeave.Proofs.Contract.References
import PolicyWeave.Proofs.Contract.RoundTrip
import PolicyWeave.Proofs.Contract.Violations
import PolicyWeave.Proofs.Data.Listing
import PolicyWeave.Proofs.Data.Lists
import PolicyWeave.Proofs.Data.Reading
import PolicyWeave.Proofs.Data.Table
import PolicyWeave.Proofs.Decoration
import PolicyWeave.Proofs.Digest.Base64
import PolicyWeave.Proofs.Duration
import PolicyWeave.Proofs.Duration.Decimal
import PolicyWeave.Proofs.Duration.Seconds
import PolicyWeave.Proofs.Duration.Texts
import PolicyWeave.Proofs.Duration.Units
import PolicyWeave.Proofs.Generation
import PolicyWeave.Proofs.Json.Exact
import PolicyWeave.Proofs.Json.Strings
import PolicyWeave.Proofs.Json.Tree
import PolicyWeave.Proofs.Json.Words
import PolicyWeave.Proofs.Key.Agreement
import PolicyWeave.Proofs.Number.Arithmetic
import PolicyWeave.Proofs.Number.Exact
import PolicyWeave.Proofs.Number.Nearest
import PolicyWeave.Proofs.Number.Numerals
import PolicyWeave.Proofs.Number.Value
import PolicyWeave.Proofs.Plan
import PolicyWeave.Proofs.Service.Observation
import PolicyWeave.Proofs.Service.Order
import PolicyWeave.Proofs.Service.Tracing
import PolicyWeave.Proofs.Source.Depth
import PolicyWeave.Proofs.Source.Emission
import PolicyWeave.Proofs.Source.ItemReader
import PolicyWeave.Proofs.Source.Items
import PolicyWeave.Proofs.Source.LegalNames
import PolicyWeave.Proofs.Source.Lifetimes
import PolicyWeave.Proofs.Source.Preamble
import PolicyWeave.Proofs.Source.Scope
import PolicyWeave.Proofs.Source.Settings
import PolicyWeave.Proofs.Source.Spelling
import PolicyWeave.Proofs.Source.Words
import PolicyWeave.Proofs.Source.Writing
import PolicyWeave.Proofs.Template.BracedNames
import PolicyWeave.Proofs.Template.Canonical
import PolicyWeave.Proofs.Template.Concatenation
import PolicyWeave.Proofs.Template.Cursor
import PolicyWeave.Proofs.Template.DefaultKey
import PolicyWeave.Proofs.Template.Denotation
import PolicyWeave.Proofs.Template.Dependencies
import PolicyWeave.Proofs.Template.ExpressionReader
import PolicyWeave.Proofs.Template.FieldPaths
import PolicyWeave.Proofs.Template.Grammar
import PolicyWeave.Proofs.Template.KeyNames
import PolicyWeave.Proofs.Template.Lexemes
import PolicyWeave.Proofs.Template.Names
import PolicyWeave.Proofs.Template.Operands
import PolicyWeave.Proofs.Template.Positions
import PolicyWeave.Proofs.Template.Recognition
import PolicyWeave.Proofs.Template.Resolution
import PolicyWeave.Proofs.Template.Safety
import PolicyWeave.Proofs.Template.Shift
import PolicyWeave.Proofs.Template.Tiling
import PolicyWeave.Proofs.Text.Identifier
import PolicyWeave.Proofs.Text.Keywords
import PolicyWeave.Proofs.Text.Lines
import PolicyWeave.Proofs.Text.LiteralReader
import PolicyWeave.Proofs.Text.Runs
import PolicyWeave.Proofs.Text.SnakeCase
import PolicyWeave.Proofs.Text.Trimming
import PolicyWeave.Proofs.Text.WordStarts
import PolicyWeave.Proofs.Text.Words
import PolicyWeave.Sample.Contracts
import PolicyWeave.Sample.Users
import PolicyWeave.Sample.Values
import PolicyWeave.Service.Basic
import PolicyWeave.Service.Trace
import PolicyWeave.Source.Body
import PolicyWeave.Source.Code
import PolicyWeave.Source.Decorator
import PolicyWeave.Source.Delegator
import PolicyWeave.Source.Emission
import PolicyWeave.Source.File
import PolicyWeave.Source.Names
import PolicyWeave.Template.Basic
import PolicyWeave.Template.Builtin
import PolicyWeave.Template.Compile
import PolicyWeave.Template.Error
import PolicyWeave.Template.Evaluate
import PolicyWeave.Template.Expression
import PolicyWeave.Template.Native
import PolicyWeave.Template.Outline
import PolicyWeave.Template.Parse
import PolicyWeave.Template.Scan
import PolicyWeave.Template.Token
import PolicyWeave.Text.Blank
import PolicyWeave.Text.Case
import PolicyWeave.Text.CaseTables
import PolicyWeave.Text.ClassTables
import PolicyWeave.Text.Classes
import PolicyWeave.Text.Hex
import PolicyWeave.Text.Identifier
import PolicyWeave.Text.Lines
import PolicyWeave.Text.Literal
import PolicyWeave.Text.Utf8
import PolicyWeave.Yaml.Alias
import PolicyWeave.Yaml.Block
import PolicyWeave.Yaml.Cursor
import PolicyWeave.Yaml.Name
import PolicyWeave.Yaml.Node
import PolicyWeave.Yaml.Plain
import PolicyWeave.Yaml.Printer
import PolicyWeave.Yaml.Quoted
import PolicyWeave.Yaml.Reader
import PolicyWeave.Yaml.Scalar
import PolicyWeave.Yaml.Scan
import PolicyWeave.Yaml.Token
