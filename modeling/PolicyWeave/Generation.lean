import PolicyWeave.Source.Emission

/-!
# Generation

Generation turns each contract of a model into a file, or into the list
of everything that is wrong with it.  Contracts do not influence each
other: the report of a model is put together from one result for each
contract.
-/

namespace PolicyWeave

/-- A file generated for a contract. -/
structure GeneratedFile where
  package : String
  name : String
  source : String
  deriving DecidableEq

/-- A contract that was left out because of errors. -/
structure FailedContract where
  contract : String
  errors : List MethodError
  deriving DecidableEq

/-- What came of a model. -/
structure Report where
  outputs : List GeneratedFile
  failures : List FailedContract
  deriving DecidableEq

/-- The result for one contract. -/
inductive Outcome where
  | output (f : GeneratedFile)
  | failure (f : FailedContract)

namespace Contract

/-- The result for a contract. -/
def generate (config : Config) (table : BuiltinTable) (c : Contract) :
    Outcome :=
  match c.plan table with
  | .ok p =>
    .output ⟨c.package, c.name, p.render config⟩
  | .error errors => .failure ⟨c.name, errors⟩

/-- The event of an error. -/
def rejectionEvent (e : MethodError) : Event :=
  Event.of .warn "method rejected"
    [("contract", e.contract), ("method", e.method), ("error", e.message)]

/-- The events of a result. -/
def outcomeEvents : Outcome → List Event
  | .output f =>
    [Event.of .info "generated decorators"
      [("contract", f.name),
        ("bytes", Number.natText f.source.utf8ByteSize)]]
  | .failure f => f.errors.map rejectionEvent

/-- The events of generating a contract. -/
def generationEvents (config : Config) (table : BuiltinTable)
    (c : Contract) : List Event :=
  Event.of .info "generating decorators"
      [("contract", c.name), ("package", c.package),
        ("methods", Number.natText c.methods.length)]
    :: c.compileEvents table
    ++ outcomeEvents (c.generate config table)

end Contract

namespace Report

/-- A report with nothing in it. -/
def empty : Report := ⟨[], []⟩

/-- A report with one more result in front. -/
def cons : Outcome → Report → Report
  | .output f, r => { r with outputs := f :: r.outputs }
  | .failure f, r => { r with failures := f :: r.failures }

/-- Whether nothing was left out. -/
def isSuccess (r : Report) : Bool := r.failures.isEmpty

/-- The first file of a contract. -/
def output? (r : Report) (contract : String) : Option GeneratedFile :=
  r.outputs.find? fun f => f.name == contract

/-- The first failure of a contract. -/
def failure? (r : Report) (contract : String) : Option FailedContract :=
  r.failures.find? fun f => f.contract == contract

/-- All errors, in order. -/
def errors (r : Report) : List MethodError :=
  r.failures.flatMap FailedContract.errors

end Report

namespace PolicyModel

/-- The report of a model. -/
def generate (config : Config) (table : BuiltinTable) (m : PolicyModel) :
    Report :=
  (m.contracts.map (Contract.generate config table)).foldr Report.cons
    Report.empty

/-- The events of generating a model. -/
def generationEvents (config : Config) (table : BuiltinTable)
    (m : PolicyModel) : List Event :=
  m.contracts.flatMap (Contract.generationEvents config table)

end PolicyModel

end PolicyWeave
