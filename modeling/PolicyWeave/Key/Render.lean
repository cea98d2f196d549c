import PolicyWeave.Digest.Base64
import PolicyWeave.Digest.Sha256
import PolicyWeave.Event
import PolicyWeave.Key.Datum
import PolicyWeave.Text.Case

/-!
# Key rendering

A cache key is made of texts.  A value enters a key either plainly, by
`segment`, or through one of the five key functions.

There are two groups.

* Rendering of JSON values, which always succeeds.
* Rendering of native values.  One that has no JSON form renders as the
  empty text and leaves a warning.
-/

namespace PolicyWeave

/-- A key function. -/
inductive KeyFunction where
  | base64Json
  | json
  | sha256
  | lower
  | upper
  deriving DecidableEq, Repr

/-- The name under which generated code calls the function. -/
def KeyFunction.name : KeyFunction → String
  | .base64Json => "base64_json"
  | .json => "json"
  | .sha256 => "sha256"
  | .lower => "lower"
  | .upper => "upper"

/-! ## JSON values -/

/-- A value as a plain key segment: a string is taken as it is, null is
empty, and anything else is its JSON text. -/
def Json.segment : Json → String
  | .string s => s
  | .null => ""
  | v => v.render

/-- A key function on the two texts that it may need: the segment and the
JSON text of a value. -/
def KeyFunction.combine (f : KeyFunction) (segment json : String) :
    String :=
  match f with
  | .base64Json => Digest.base64 json
  | .json => json
  | .sha256 => Digest.hexDigest json
  | .lower => Text.lowerCase segment
  | .upper => Text.upperCase segment

/-- A key function applied to a JSON value. -/
def KeyFunction.apply (f : KeyFunction) (v : Json) : String :=
  f.combine v.segment v.render

/-! ## Native values -/

/-- A rendered text and the warnings on the way. -/
structure KeyText where
  text : String
  warnings : List Event

namespace Datum

/-- The warning that a value has no JSON form. -/
def warning (builtin : String) (e : DatumError) : Event :=
  Event.of .warn "key value did not serialize, rendering empty"
    [("builtin", builtin), ("error", e.message)]

/-- A native value as a plain key segment. -/
def segment (d : Datum) : KeyText :=
  match d.toJson with
  | .ok v => ⟨v.segment, []⟩
  | .error e => ⟨"", [warning "segment" e]⟩

/-- The JSON text of a native value. -/
def keyJson (d : Datum) : KeyText :=
  match d.jsonText with
  | .ok s => ⟨s, []⟩
  | .error e => ⟨"", [warning "json" e]⟩

/-- A key function applied to a native value. -/
def keyText (f : KeyFunction) (d : Datum) : KeyText :=
  match f with
  | .base64Json | .json | .sha256 =>
    let t := d.keyJson
    ⟨f.combine "" t.text, t.warnings⟩
  | .lower | .upper =>
    let t := d.segment
    ⟨f.combine t.text "", t.warnings⟩

end Datum

end PolicyWeave
