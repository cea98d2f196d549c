import PolicyWeave.Config.Error
import PolicyWeave.Contract.Decode
import PolicyWeave.Contract.Encode
import PolicyWeave.Yaml.Reader

/-!
# Models in YAML

Policy models are kept as YAML texts: `PolicyModel.load` reads one and
`PolicyModel.toYaml` writes one.
-/

namespace PolicyWeave

namespace PolicyModel

/-- The model of a document. -/
def ofDocument? (d : Yaml.Document) : Option PolicyModel :=
  if d.isBounded then Decode.model? d.reader d.root else none

/-- The model of a text. -/
def ofYaml? (s : String) : Option PolicyModel :=
  (Yaml.document? s).bind ofDocument?

/-- The model of a text, or an error. -/
def load (s : String) : Except ConfigError PolicyModel :=
  match ofYaml? s with
  | some m => .ok m
  | none => .error (.yamlParse "")

/-- The text of a model. -/
def toYaml (m : PolicyModel) : String := (Encode.model m).render

end PolicyModel

end PolicyWeave
