import PolicyWeave.Sample.Contracts
import PolicyWeave.Sample.Values
import PolicyWeave.Service.Basic
import PolicyWeave.Text.Literal

/-!
# The sample service at work

The user service over a base that logs its calls.  Identifiers that start
with `404` are not found, and those that start with `503` meet a store
that is down.
-/

namespace PolicyWeave.Sample

/-- The error of the user service. -/
inductive UserError where
  | notFound (id : String)
  | unavailable
  deriving DecidableEq, Repr

namespace UserError

/-- The name of the kind of error. -/
def kind : UserError → String
  | notFound _ => "NotFound"
  | unavailable => "Unavailable"

/-- The sentence of the error. -/
def message : UserError → String
  | notFound id => "user " ++ id ++ " not found"
  | unavailable => "user store unavailable"

/-- Only a missing user is recorded. -/
def toCached? : UserError → Option CachedError
  | notFound id => some ⟨"not_found", id, .null⟩
  | unavailable => none

/-- Every recorded failure stands for a missing user. -/
def ofCached (c : CachedError) : UserError := notFound c.message

end UserError

/-- A request to the user service. -/
inductive UserRequest where
  | getUser (ctx id : String)
  | listUsers (name : String) (active : Bool)
  | updateUser (ctx id name : String)
  | ping
  deriving DecidableEq, Repr

namespace UserRequest

/-- The method of a request. -/
def method : UserRequest → String
  | getUser _ _ => "get_user"
  | listUsers _ _ => "list_users"
  | updateUser _ _ _ => "update_user"
  | ping => "ping"

/-- The argument values of a request. -/
def arguments : UserRequest → NativeArguments
  | getUser _ id => [("id", .text id)]
  | listUsers name active =>
    [("filter", .record [("name", .text name), ("active", .bool active)])]
  | updateUser _ id name => [("user", user id name)]
  | ping => []

/-- The text of an argument on a span. -/
def describe : UserRequest → String → String
  | getUser _ id, "id" => Text.literal id
  | updateUser _ id name, "user" =>
    "User \x7b id: " ++ Text.literal id ++ ", name: " ++ Text.literal name
      ++ " \x7d"
  | _, _ => ""

/-- The values that a method answers, read back from the cache. -/
def decode? : UserRequest → Json → Option Datum
  | getUser _ _, v => user? v
  | listUsers _ _, .array items =>
    (items.mapM user?).map .sequence
  | updateUser _ _ _, v => user? v
  | ping, .null => some .unit
  | _, _ => none

/-- The line that a request leaves in the log of the base. -/
def logLine : UserRequest → String
  | getUser ctx id => "get " ++ ctx ++ " " ++ id
  | listUsers name active =>
    "list " ++ name ++ " " ++ (if active then "true" else "false")
  | updateUser ctx id _ => "update " ++ ctx ++ " " ++ id
  | ping => "ping"

/-- The text that decides whether a request fails. -/
def subject : UserRequest → String
  | getUser _ id => id
  | listUsers name _ => name
  | updateUser _ id _ => id
  | ping => ""

/-- The value of a request that succeeds, after a number of logged
calls. -/
def value (calls : Nat) : UserRequest → Datum
  | getUser _ id => user id ("U" ++ Number.natText calls)
  | listUsers name active =>
    .sequence (if active then [user "1" name] else [])
  | updateUser _ id name => user id name
  | ping => .unit

/-- The plan of the method of a request. -/
def plan? (q : UserRequest) : Option MethodPlan :=
  match userService.plan .standard with
  | .ok p => p.methods.find? fun m => m.method.name == q.method
  | .error _ => none

/-- What the policies of the sample contract come to for a request. -/
def policy (q : UserRequest) : CallPolicy :=
  match q.plan? with
  | some m => m.policyFor userService.name q.arguments q.describe
  | none => ⟨q.method, none, none, none, []⟩

/-- Whether the subject of a request starts with some text. -/
def isAbout (q : UserRequest) (start : String) : Bool :=
  start.toList.isPrefixOf q.subject.toList

/-- The base: it logs the request and answers it. -/
def answerBase (q : UserRequest) :
    StateM (List String) (Except UserError Datum) := fun calls =>
  let calls := calls ++ [q.logLine]
  if q.isAbout "404" then (.error (.notFound q.subject), calls)
  else if q.isAbout "503" then (.error .unavailable, calls)
  else (.ok (q.value calls.length), calls)

end UserRequest

/-- The user service. -/
def users : Service UserRequest Datum UserError (List String) where
  policy := UserRequest.policy
  codec q := codecOf q.decode? UserError.toCached? UserError.ofCached
  errorText := UserError.message
  base := UserRequest.answerBase

end PolicyWeave.Sample
