/-!
# Log events

What a step reports beside its result.  An event has a level, the span it
was raised in, and named texts; the sentence is the field `message`.
Events are data: a function that reports answers them with its result.
-/

namespace PolicyWeave

/-- How urgent an event is. -/
inductive Level where
  | debug
  | info
  | warn
  | error
  deriving DecidableEq, Repr

/-- The name of a level. -/
def Level.name : Level → String
  | .debug => "DEBUG"
  | .info => "INFO"
  | .warn => "WARN"
  | .error => "ERROR"

/-- One reported event. -/
structure Event where
  level : Level
  span : Option String
  fields : List (String × String)
  deriving DecidableEq, Repr

namespace Event

/-- An event outside every span. -/
def of (level : Level) (message : String)
    (fields : List (String × String)) : Event :=
  ⟨level, none, ("message", message) :: fields⟩

/-- The event as raised inside a span; an event already in a span stays
in its own. -/
def inSpan (name : String) (e : Event) : Event :=
  { e with span := e.span <|> some name }

end Event

end PolicyWeave
