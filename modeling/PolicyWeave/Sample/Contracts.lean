import PolicyWeave.Contract.Basic

/-!
# Sample contracts

Ready-made contracts: one with a method for each kind of policy, and one
whose cache key names a parameter that does not exist.
-/

namespace PolicyWeave.Sample

open Number (Double)

/-- A parameter of a sample. -/
def param (name type : String) (kind : ParamKind)
    (fields : Option (List String)) : Param :=
  ⟨name, type, kind, fields⟩

/-- The answer of a sample method. -/
def returns (value : String) : Returns := ⟨value, "UserError"⟩

/-- A whole number as a percentage. -/
def percent (n : Nat) : Double := Number.Format.double.ofNat n

/-- A cached and traced look-up. -/
def getUser : Method :=
  { name := "get_user"
    params :=
      [param "ctx" "&Context" .context none, param "id" "&str" .value none]
    returns := returns "User"
    cache := some
      ⟨Duration.ofMilliseconds 300000, "users:", "\x7bid\x7d", percent 10,
        percent 20⟩
    evict := none
    trace := some ⟨none, ["id"]⟩ }

/-- A look-up cached under the default key. -/
def listUsers : Method :=
  { name := "list_users"
    params :=
      [param "filter" "UserFilter" .value (some ["name", "active"])]
    returns := returns "Vec<User>"
    cache := some
      ⟨Duration.ofMilliseconds 30000, "users:list:", "", percent 0,
        percent 0⟩
    evict := none
    trace := none }

/-- A traced change that evicts cached keys. -/
def updateUser : Method :=
  { name := "update_user"
    params :=
      [param "ctx" "&Context" .context none,
        param "user" "User" .value (some ["id", "name"])]
    returns := returns "User"
    cache := none
    evict := some ⟨["users:\x7buser.id\x7d", "users:list:*"]⟩
    trace := some ⟨some "users.update", ["user"]⟩ }

/-- A method without policies. -/
def ping : Method :=
  { name := "ping"
    params := []
    returns := returns "()"
    cache := none
    evict := none
    trace := none }

/-- A contract with a method for each kind of policy. -/
def userService : Contract :=
  ⟨"app::users", "UserService", [getUser, listUsers, updateUser, ping]⟩

/-- A look-up whose key names a parameter that is not there. -/
def lookup : Method :=
  { name := "lookup"
    params := [param "id" "u64" .value none]
    returns := returns "String"
    cache := some
      ⟨Duration.ofMilliseconds 60000, "", "item:\x7bitem_id\x7d",
        percent 0, percent 0⟩
    evict := none
    trace := none }

/-- A contract that has no plan. -/
def brokenService : Contract :=
  ⟨"app::broken", "BrokenService", [lookup, ping]⟩

/-- A model with the user service alone. -/
def policyModel : PolicyModel := ⟨[userService]⟩

/-- A model with a broken contract between two good ones. -/
def mixedModel : PolicyModel :=
  ⟨[userService, brokenService,
    { userService with package := "app::orders", name := "OrderService" }]⟩

/-- The user service as a model text. -/
def userServiceYaml : String :=
  String.intercalate "\n"
    ["",
      "contracts:",
      "  - package: app::users",
      "    name: UserService",
      "    methods:",
      "      - name: get_user",
      "        params:",
      "          - \x7b name: ctx, ty: \"&Context\", kind: context \x7d",
      "          - \x7b name: id, ty: \"&str\" \x7d",
      "        returns: \x7b value: User, error: UserError \x7d",
      "        cache:",
      "          ttl: 5m",
      "          prefix: \"users:\"",
      "          key: \"\x7bid\x7d\"",
      "          jitter_percent: 10",
      "          refresh_threshold_percent: 20",
      "        trace:",
      "          attributes: [id]",
      "      - name: list_users",
      "        params:",
      "          - \x7b name: filter, ty: UserFilter, fields: [name, active] \x7d",
      "        returns: \x7b value: Vec<User>, error: UserError \x7d",
      "        cache:",
      "          ttl: 30s",
      "          prefix: \"users:list:\"",
      "      - name: update_user",
      "        params:",
      "          - \x7b name: ctx, ty: \"&Context\", kind: context \x7d",
      "          - \x7b name: user, ty: User, fields: [id, name] \x7d",
      "        returns: \x7b value: User, error: UserError \x7d",
      "        evict:",
      "          keys: [\"users:\x7buser.id\x7d\", \"users:list:*\"]",
      "        trace:",
      "          span_name: users.update",
      "          attributes: [user]",
      "      - name: ping",
      "        returns: \x7b value: \"()\", error: UserError \x7d",
      ""]

end PolicyWeave.Sample
