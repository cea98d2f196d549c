import PolicyWeave.Contract.Basic
import PolicyWeave.Json.Reader

/-!
# Decoding models

The written shape of a policy model: the names of the fields of each
record, which of them may be missing, and what they then default to.
Unknown fields are refused.
-/

namespace PolicyWeave

open Number (Double)

namespace Decode

variable {α : Type} (r : Reader α)

/-- A kind of parameter. -/
def paramKind? (v : α) : Option ParamKind :=
  match r.choice? v with
  | some "value" => some .value
  | some "context" => some .context
  | _ => none

/-- A parameter. -/
def param? (v : α) : Option Param := do
  match ← r.fields? ["name", "ty", "kind", "fields"] v with
  | [name, type, kind, fields] =>
    let name ← Reader.required r.text? name
    let type ← Reader.required r.text? type
    let kind ← Reader.orDefault .value (paramKind? r) kind
    let fields ← r.optional (r.listOf r.text?) fields
    return ⟨name, type, kind, fields⟩
  | _ => none

/-- The shape of an answer. -/
def returns? (v : α) : Option Returns := do
  match ← r.fields? ["value", "error"] v with
  | [value, error] =>
    let value ← Reader.required r.text? value
    let error ← Reader.required r.text? error
    return ⟨value, error⟩
  | _ => none

/-- A duration, written as a text. -/
def duration? (v : α) : Option Duration :=
  (r.text? v).bind Duration.parse?

/-- A cache policy. -/
def cachePolicy? (v : α) : Option CachePolicy := do
  match ← r.fields? ["ttl", "prefix", "key", "jitter_percent",
      "refresh_threshold_percent"] v with
  | [ttl, lead, key, jitter, threshold] =>
    let ttl ← Reader.required (duration? r) ttl
    let lead ← Reader.orDefault "" r.text? lead
    let key ← Reader.orDefault "" r.text? key
    let jitter ← Reader.orDefault Number.Binary.zero r.number? jitter
    let threshold ← Reader.orDefault Number.Binary.zero r.number? threshold
    return ⟨ttl, lead, key, jitter, threshold⟩
  | _ => none

/-- An evict policy. -/
def evictPolicy? (v : α) : Option EvictPolicy := do
  match ← r.fields? ["keys"] v with
  | [keys] =>
    let keys ← Reader.required (r.listOf r.text?) keys
    return ⟨keys⟩
  | _ => none

/-- A trace policy. -/
def tracePolicy? (v : α) : Option TracePolicy := do
  match ← r.fields? ["span_name", "attributes"] v with
  | [spanName, attributes] =>
    let spanName ← r.optional r.text? spanName
    let attributes ← Reader.orDefault [] (r.listOf r.text?) attributes
    return ⟨spanName, attributes⟩
  | _ => none

/-- A method. -/
def method? (v : α) : Option Method := do
  match ← r.fields? ["name", "params", "returns", "cache", "evict",
      "trace"] v with
  | [name, params, returns, cache, evict, trace] =>
    let name ← Reader.required r.text? name
    let params ← Reader.orDefault [] (r.listOf (param? r)) params
    let returns ← Reader.required (returns? r) returns
    let cache ← r.optional (cachePolicy? r) cache
    let evict ← r.optional (evictPolicy? r) evict
    let trace ← r.optional (tracePolicy? r) trace
    return ⟨name, params, returns, cache, evict, trace⟩
  | _ => none

/-- A contract. -/
def contract? (v : α) : Option Contract := do
  match ← r.fields? ["package", "name", "methods"] v with
  | [package, name, methods] =>
    let package ← Reader.required r.text? package
    let name ← Reader.required r.text? name
    let methods ← Reader.orDefault [] (r.listOf (method? r)) methods
    return ⟨package, name, methods⟩
  | _ => none

/-- A whole model. -/
def model? (v : α) : Option PolicyModel := do
  match ← r.fields? ["contracts"] v with
  | [contracts] =>
    let contracts ← Reader.orDefault [] (r.listOf (contract? r)) contracts
    return ⟨contracts⟩
  | _ => none

end Decode

/-! ## From JSON -/

/-- The contract of a JSON value. -/
def Contract.ofJson? (v : Json) : Option Contract :=
  Decode.contract? Json.reader v

/-- The model of a JSON value. -/
def PolicyModel.ofJson? (v : Json) : Option PolicyModel :=
  Decode.model? Json.reader v

end PolicyWeave
