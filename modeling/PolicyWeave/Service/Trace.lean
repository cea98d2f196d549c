import PolicyWeave.Cache.World

/-!
# Traced calls

A traced call runs in a span of its own.  When the call fails, the span is
marked and an event says so; the result is handed back unchanged.
-/

namespace PolicyWeave

/-- The field that marks a span. -/
def statusField : String := "otel.status_code"

/-- The mark of a failed call. -/
def statusError : String := "ERROR"

namespace World

variable {V E L X : Type}

/-- Open a span inside the one that is open, and answer its number and
the name of the other. -/
def openSpan (span : SpanRecord) :
    StateM (World V E L X) (Nat × Option String) := fun w =>
  ((w.spans.length, w.span),
    { w with spans := w.spans ++ [span], span := some span.name })

/-- Go back to the span that was open before. -/
def closeSpan (before : Option String) : StateM (World V E L X) Unit :=
  modify fun w => { w with span := before }

/-- Record a field on a span. -/
def recordField (i : Nat) (name value : String) :
    StateM (World V E L X) Unit :=
  modify fun w =>
    { w with
      spans := w.spans.modify i fun s =>
        { s with fields := s.fields ++ [(name, value)] } }

/-- Run a call in a span. -/
def traced (span : SpanRecord) (errorText : E → String)
    (call : Act (World V E L X) (Except E V)) :
    Act (World V E L X) (Except E V) := do
  let (i, before) ← Act.safe (openSpan span)
  let result ← call.thenAlways (closeSpan before)
  match result with
  | .ok _ => return result
  | .error e =>
    Act.safe (recordField i statusField statusError)
    let event := Event.of .error "call failed" [("error", errorText e)]
    Act.safe (report (event.inSpan span.name))
    return result

end World

end PolicyWeave
