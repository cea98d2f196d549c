import PolicyWeave.Source.Delegator

/-!
# Generated files

A generated file is the preamble and up to three sections: the caching
decorator, the tracing decorator and the decorator stack.  A section is
there only when the plan, or the configuration, asks for it.
-/

namespace PolicyWeave

/-- A generated file as data. -/
structure SourceFile where
  contract : Contract
  cache : Option Decorator
  trace : Option Decorator
  delegator : Option DelegatorItems

/-- The file of a plan. -/
def SourceFile.ofPlan (config : Config) (p : ContractPlan) : SourceFile :=
  { contract := p.contract
    cache := if p.needsCacheLayer then some (cacheDecorator p) else none
    trace := if p.needsTraceLayer then some (traceDecorator p) else none
    delegator := if config.emitDelegator then some (delegatorItems p)
      else none }

namespace SourceFile

/-- The lines before the first declaration: the header, the contract, and
what the file uses. -/
def preamble (config : Config) (c : Contract) : List Code :=
  (Text.lines config.header.toList).map (fun l => .line (String.ofList l))
    ++ [.line ("// Contract: " ++ c.package ++ "::" ++ c.name),
        .blank,
        .line "use super::*;",
        .line "use std::sync::Arc;"]

/-- The code of a section that may be missing, with an empty line in
front. -/
def sectionCode {α : Type} (code : α → List Code) :
    Option α → List Code
  | none => []
  | some item => .blank :: code item

/-- The code of a file. -/
def code (config : Config) (f : SourceFile) : List Code :=
  preamble config f.contract
    ++ sectionCode (Decorator.code config) f.cache
    ++ sectionCode (Decorator.code config) f.trace
    ++ sectionCode (DelegatorItems.code config) f.delegator

/-- The text of a file. -/
def text (config : Config) (f : SourceFile) : String :=
  Code.text (f.code config)

end SourceFile

end PolicyWeave
