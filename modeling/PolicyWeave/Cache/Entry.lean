import PolicyWeave.Duration
import PolicyWeave.Json.Reader
import PolicyWeave.Key.Datum

/-!
# Cache entries

What a cache holds under a key: a value or a recorded failure, the time
it was stored to live, and the time it has left.
-/

namespace PolicyWeave

open Number (Double Binary Format)

/-- A failed call as the cache records it. -/
structure CachedError where
  kind : String
  message : String
  detail : Json
  deriving Inhabited

namespace CachedError

/-- The recorded failure of a JSON value.  The detail may be missing, and
members of other names are passed over. -/
def ofJson? (v : Json) : Option CachedError :=
  match v with
  | .object _ => do
    let kind ← v.get? "kind" >>= Json.string?
    let message ← v.get? "message" >>= Json.string?
    return ⟨kind, message, (v.get? "detail").getD .null⟩
  | .array (kind :: message :: rest) => do
    let kind ← kind.string?
    let message ← message.string?
    match rest with
    | [] => return ⟨kind, message, .null⟩
    | [detail] => return ⟨kind, message, detail⟩
    | _ => none
  | _ => none

/-- The recorded failure as a value with its fields in order. -/
def toDatum (e : CachedError) : Datum :=
  .record [("kind", .text e.kind), ("message", .text e.message),
    ("detail", .ofJson e.detail)]

end CachedError

/-- What an entry holds. -/
inductive Payload where
  | value (v : Json)
  | failure (e : CachedError)
  deriving Inhabited

/-- An entry of a cache. -/
structure Entry where
  payload : Payload
  ttl : Duration
  remaining : Duration
  deriving Inhabited

namespace Entry

/-- An entry that was stored just now. -/
def fresh (payload : Payload) (ttl : Duration) : Entry :=
  ⟨payload, ttl, ttl⟩

/-- Whether the entry records a failure. -/
def isFailure (e : Entry) : Bool :=
  match e.payload with
  | .value _ => false
  | .failure _ => true

/-- One, as a double. -/
def one : Double := Format.double.ofNat 1

/-- The share of its time that the entry has left, between zero and
one. -/
def remainingFraction (e : Entry) : Double :=
  if e.ttl.isZero then Binary.zero
  else
    let share := e.remaining.toSeconds.div e.ttl.toSeconds
    if share.lt Binary.zero then Binary.zero
    else if one.lt share then one
    else share

end Entry

/-- How the results of one method are cached. -/
structure CacheSettings where
  method : String
  ttl : Duration
  jitterPercent : Double
  refreshThresholdPercent : Double
  deriving DecidableEq, Inhabited

/-- Whether an entry is so near its end that it is to be refreshed.  A
threshold of zero or below, or a NaN, means never. -/
def CacheSettings.shouldRefresh (s : CacheSettings) (e : Entry) : Bool :=
  Binary.zero.lt s.refreshThresholdPercent
    && (e.remainingFraction.mul (Format.double.ofNat 100)).le
        s.refreshThresholdPercent

end PolicyWeave
