import PolicyWeave.Text.Identifier

/-!
# Names of generated items

The names that generated code declares, from the names of a contract and
its methods.
-/

namespace PolicyWeave.Names

/-- The type of the caching decorator. -/
def cacheDecorator (contract : String) : String := contract ++ "Cache"

/-- The type of the tracing decorator. -/
def traceDecorator (contract : String) : String := contract ++ "Trace"

/-- The type of the decorator stack. -/
def delegator (contract : String) : String := contract ++ "Delegator"

/-- The constant with the cache settings of a method. -/
def settings (contract method : String) : String :=
  Text.upperSnakeCase contract ++ "_" ++ Text.upperSnakeCase method
    ++ "_CACHE"

/-- The function that starts a decorator stack. -/
def delegatorFunction (contract : String) : String :=
  Text.snakeCase contract ++ "_delegator"

/-- The factory of the caching decorator. -/
def cacheFactory (contract : String) : String :=
  Text.snakeCase contract ++ "_cache"

/-- The factory of the tracing decorator. -/
def traceFactory (contract : String) : String :=
  Text.snakeCase contract ++ "_trace"

/-- The bindings that method bodies introduce for themselves. -/
def key : String := "__key"
def inner : String := "__inner"
def evict : String := "__evict"
def result : String := "__result"
def span : String := "__span"

end PolicyWeave.Names
