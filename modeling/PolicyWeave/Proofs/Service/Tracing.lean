import PolicyWeave.Proofs.Cache.Answers
import PolicyWeave.Service.Basic

/-!
# What traced calls leave behind

A traced call hands the result of its inner call back.  It leaves a span,
which is marked if that result is an error, and then one event more.

There are two groups.

* One call.  `World.settled_traced` gives the world behind a call in a
  span, from the world behind the call by itself.
* Calls behind one another.  `Service.spansOf` and `Service.failuresOf`
  are what a request leaves in a number of tracing decorators, and
  `Service.answer_traces` is such a request down to the base.
-/

namespace PolicyWeave

variable {V E L X : Type}

/-! ## One traced call -/

/-- A span that is marked as that of a failed call. -/
def SpanRecord.marked (span : SpanRecord) : SpanRecord :=
  { span with fields := span.fields ++ [(statusField, statusError)] }

/-- A span as it is left behind by a call: marked, if the call has
answered an error. -/
def SpanRecord.closed (span : SpanRecord) :
    Except Crash (Except E V) → SpanRecord
  | .ok (.error _) => span.marked
  | _ => span

/-- The events about a call in a span: one, if the call has answered an
error. -/
def SpanRecord.failures (span : SpanRecord) (errorText : E → String) :
    Except Crash (Except E V) → List Event
  | .ok (.error e) =>
    [(Event.of .error "call failed" [("error", errorText e)]).inSpan
      span.name]
  | _ => []

namespace World

/-- The world in which a call in a span begins. -/
def opened (w : World V E L X) (span : SpanRecord) : World V E L X :=
  { w with spans := w.spans ++ [span], span := some span.name }

/-- A call in a span answers what it answers by itself.  If it only adds
to the spans, its own comes in front of those, marked if the answer is an
error, and then there is one more event. -/
theorem settled_traced (span : SpanRecord) (errorText : E → String)
    (call : Act (World V E L X) (Except E V)) (w : World V E L X)
    {outcome : Except Crash (Except E V)} {next : World V E L X}
    {more : List SpanRecord}
    (hcall : call.settled (w.opened span) = (outcome, next))
    (hmore : next.spans = w.spans ++ span :: more) :
    (traced span errorText call).settled w =
      (outcome,
        { next with
          span := w.span
          spans := w.spans ++ span.closed outcome :: more
          events := next.events ++ span.failures errorText outcome }) := by
  have hclosed : (call.thenAlways (closeSpan w.span)).settled
      (w.opened span) = (outcome, { next with span := w.span }) := by
    show ((call.settled (w.opened span)).1,
      ((closeSpan w.span) (call.settled (w.opened span)).2).2) = _
    rw [hcall]
    rfl
  unfold traced
  refine (Act.settled_lift_bind (m := openSpan span) rfl).trans ?_
  rcases outcome with c | e | v
  · refine (Act.settled_bind_of_error hclosed).trans ?_
    simp [SpanRecord.closed, SpanRecord.failures, ← hmore]
  · refine (Act.settled_bind_of_ok hclosed).trans ?_
    have hmark : next.spans.modify w.spans.length (fun s =>
          { s with fields := s.fields ++ [(statusField, statusError)] })
        = w.spans ++ span.marked :: more := by
      rw [hmore]
      simp [List.modify_eq_take_cons_drop, SpanRecord.marked]
    have hrecord : recordField w.spans.length statusField statusError
        { next with span := w.span } = ((), { next with
          span := w.span
          spans := w.spans ++ span.marked :: more }) := by
      rw [← hmark]
      rfl
    refine (Act.settled_lift_bind hrecord).trans ?_
    rfl
  · refine (Act.settled_bind_of_ok hclosed).trans ?_
    simp [SpanRecord.closed, SpanRecord.failures, ← hmore]
    rfl

end World

/-! ## Calls behind one another -/

namespace Service

variable {Q : Type} (s : Service Q V E X)

/-- The spans of a request through `n` tracing decorators that comes to an
outcome. -/
def spansOf (n : Nat) (q : Q) (outcome : Except Crash (Except E V)) :
    List SpanRecord :=
  match (s.policy q).trace with
  | some span => List.replicate n (span.closed outcome)
  | none => []

/-- The events of a request through `n` tracing decorators that comes to
an outcome. -/
def failuresOf (n : Nat) (q : Q) (outcome : Except Crash (Except E V)) :
    List Event :=
  match (s.policy q).trace with
  | some span =>
    (List.replicate n (span.failures s.errorText outcome)).flatten
  | none => []

section

variable {s} {q : Q}

theorem spansOf_zero (outcome : Except Crash (Except E V)) :
    s.spansOf 0 q outcome = [] := by
  unfold spansOf
  split <;> rfl

theorem failuresOf_zero (outcome : Except Crash (Except E V)) :
    s.failuresOf 0 q outcome = [] := by
  unfold failuresOf
  split <;> rfl

theorem spansOf_of_none (h : (s.policy q).trace = none) (n : Nat)
    (outcome : Except Crash (Except E V)) :
    s.spansOf n q outcome = [] := by
  rw [spansOf, h]

theorem failuresOf_of_none (h : (s.policy q).trace = none) (n : Nat)
    (outcome : Except Crash (Except E V)) :
    s.failuresOf n q outcome = [] := by
  rw [failuresOf, h]

theorem spansOf_succ {span : SpanRecord}
    (h : (s.policy q).trace = some span) (n : Nat)
    (outcome : Except Crash (Except E V)) :
    s.spansOf (n + 1) q outcome
      = span.closed outcome :: s.spansOf n q outcome := by
  simp only [spansOf, h, List.replicate_succ]

/-- All failures of a request are the same event. -/
theorem failuresOf_succ {span : SpanRecord}
    (h : (s.policy q).trace = some span) (n : Nat)
    (outcome : Except Crash (Except E V)) :
    s.failuresOf (n + 1) q outcome
      = s.failuresOf n q outcome ++ span.failures s.errorText outcome := by
  simp only [failuresOf, h, List.replicate_succ', List.flatten_concat]

end

/-- A request through tracing decorators alone is one call of the base.
It leaves one span and at most one event for each decorator. -/
theorem answer_traces (c : Wiring) (n : Nat) (q : Q)
    (w : World V E (Inner Q) X) :
    (s.answer c (List.replicate n .trace) q).settled w =
      (.ok (s.base q w.base).1,
        { w with
          base := (s.base q w.base).2
          spans := w.spans ++ s.spansOf n q (.ok (s.base q w.base).1)
          events := w.events
            ++ s.failuresOf n q (.ok (s.base q w.base).1) }) := by
  induction n generalizing w with
  | zero =>
    rw [spansOf_zero, failuresOf_zero, List.append_nil, List.append_nil]
    rfl
  | succ n ih =>
    rw [List.replicate_succ, answer, tracedCall]
    cases htrace : (s.policy q).trace with
    | none =>
      have hcall := ih w
      rw [spansOf_of_none htrace, failuresOf_of_none htrace] at hcall ⊢
      exact hcall
    | some span =>
      have hspans (more : List SpanRecord) :
          (w.opened span).spans ++ more = w.spans ++ span :: more :=
        List.append_assoc ..
      refine (World.settled_traced span s.errorText _ w (ih _)
        (hspans _)).trans ?_
      rw [spansOf_succ htrace, failuresOf_succ htrace, ← List.append_assoc]
      rfl

end Service

end PolicyWeave
