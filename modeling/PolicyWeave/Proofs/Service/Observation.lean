import Mathlib.Data.List.Forall2
import PolicyWeave.Cache.Operation
import PolicyWeave.Proofs.Cache.Coupling
import PolicyWeave.Proofs.Data.Lists
import PolicyWeave.Proofs.Service.Tracing

/-!
# Services and what is seen of them

A service with tracing decorators behind its cache, beside the same
service without them.  Whatever happens to both, cache and base of the one
are those of the other, and each call of the base is seen once for each
decorator.

There are five groups.

* Two worlds.  `Mirrors` relates the worlds of both services, and
  `Watched` says what was seen in them since two earlier ones.  To count
  the calls of the base, `recorded` has it write them down.
* Steps on both worlds: `Synced` steps answer the same and add nothing but
  the calls of the base that they make.
* Coupled layers.  The layers of both services are coupled, since a load
  behind the decorators is a call of the base.
* Queued refreshes, which are run by the same layers.
* Whatever happens beside the calls.
-/

namespace PolicyWeave

variable {Q V E X : Type}

/-- An event, whatever the span it was reported in. -/
def Event.content (e : Event) : Level × List (String × String) :=
  (e.level, e.fields)

namespace Service

/-! ## Two worlds -/

/-- The service over a base that writes down its calls and what it
answers them. -/
def recorded (s : Service Q V E X) :
    Service Q V E (X × List (Q × Except E V)) where
  policy := s.policy
  codec := s.codec
  errorText := s.errorText
  base q := fun b =>
    let (result, state) := s.base q b.1
    (result, (state, b.2 ++ [(q, result)]))

/-- The world of a service whose base writes down its calls. -/
abbrev Logged (Q V E X : Type) : Type :=
  World V E (Inner Q) (X × List (Q × Except E V))

/-- The loader of a request behind `n` tracing decorators, and the one
behind none. -/
def Behind (n : Nat) (l l' : Inner Q) : Prop :=
  l.1 = List.replicate n .trace ∧ l' = ([], l.2)

/-- Worlds in which the same has happened to the cache and to the base.
The refreshes of the first one go through `n` tracing decorators. -/
structure Mirrors (n : Nat) (w w' : Logged Q V E X) : Prop where
  store : w.store = w'.store
  locks : w.locks = w'.locks
  outside : w.outside = w'.outside
  queue : List.Forall₂ (Job.Alike (Behind n)) w.queue w'.queue
  submitted : w.submitted = w'.submitted
  words : w.words = w'.words
  base : w.base = w'.base

variable (s : Service Q V E X)

/-- The spans of calls of the base that each go through `n` tracing
decorators. -/
def loadSpans (n : Nat) (calls : List (Q × Except E V)) :
    List SpanRecord :=
  calls.flatMap fun call => s.spansOf n call.1 (.ok call.2)

/-- The events of calls of the base that each go through `n` tracing
decorators. -/
def loadFailures (n : Nat) (calls : List (Q × Except E V)) :
    List Event :=
  calls.flatMap fun call => s.failuresOf n call.1 (.ok call.2)

/-- What two worlds have come to, and what was seen on the way.  Each call
of the base has left its spans in the first one, behind some others, and
its failures, among some others.  Any other event has been reported in
both worlds, if not in the same span. -/
structure Watched (n : Nat) (spans : List SpanRecord)
    (failures : List Event) (w w' next next' : Logged Q V E X) :
    Prop where
  mirrors : Mirrors n next next'
  span : next.span = w.span
  seen : ∃ (calls : List (Q × Except E V)) (own added added' : List Event),
    next.base.2 = w.base.2 ++ calls
      ∧ next.spans = w.spans ++ spans ++ s.loadSpans n calls
      ∧ next.events = w.events ++ added
      ∧ added.Perm (own ++ failures ++ s.loadFailures n calls)
      ∧ next'.events = w'.events ++ added'
      ∧ own.map Event.content = added'.map Event.content

variable {s} {n : Nat} {w w' : Logged Q V E X}

theorem Watched.refl (h : Mirrors n w w') :
    s.Watched n [] [] w w' w w' :=
  ⟨h, rfl, [], [], [], [], by simp [loadSpans, loadFailures]⟩

section

variable {spans : List SpanRecord} {failures : List Event}
  {next next' : Logged Q V E X}

/-- What happens to the cache alone is not seen. -/
theorem Watched.quiet (h : s.Watched n spans failures w w' next next')
    {last last' : Logged Q V E X} (hmirrors : Mirrors n last last')
    (hspan : last.span = next.span) (hspans : last.spans = next.spans)
    (hevents : last.events = next.events)
    (hcalls : last.base.2 = next.base.2)
    (hevents' : last'.events = next'.events) :
    s.Watched n spans failures w w' last last' := by
  refine ⟨hmirrors, hspan.trans h.span, ?_⟩
  rw [hspans, hevents, hcalls, hevents']
  exact h.seen

/-- An event that is reported in both worlds. -/
theorem Watched.reported (h : s.Watched n spans failures w w' next next')
    (e : Event) :
    s.Watched n spans failures w w' (World.report e next).2
      (World.report e next').2 := by
  obtain ⟨calls, own, added, added', hcalls, hspans, hevents, hperm,
    hevents', hcontent⟩ := h.seen
  refine ⟨{ h.mirrors with }, h.span, calls,
    own ++ [{ e with span := e.span <|> next.span }],
    added ++ [{ e with span := e.span <|> next.span }],
    added' ++ [{ e with span := e.span <|> next'.span }],
    hcalls, hspans, ?_, ?_, ?_, ?_⟩
  · show next.events ++ _ = _
    rw [hevents, List.append_assoc]
  · refine (hperm.append_right _).trans ?_
    simpa only [List.append_assoc] using append_append_perm own
      (failures ++ s.loadFailures n calls) [_]
  · show next'.events ++ _ = _
    rw [hevents', List.append_assoc]
  · rw [List.map_append, List.map_append, hcontent]
    rfl

/-- A call of the base in both worlds, which leaves its spans and its
failures in the first one. -/
theorem Watched.loaded (h : s.Watched n spans failures w w' next next')
    (q : Q) (result : Except E V) (state : X) :
    s.Watched n spans failures w w'
      { next with
        base := (state, next.base.2 ++ [(q, result)])
        spans := next.spans ++ s.spansOf n q (.ok result)
        events := next.events ++ s.failuresOf n q (.ok result) }
      { next' with base := (state, next'.base.2 ++ [(q, result)]) } := by
  obtain ⟨calls, own, added, added', hcalls, hspans, hevents, hperm,
    hevents', hcontent⟩ := h.seen
  have hbase : next.base.2 = next'.base.2 :=
    congrArg Prod.snd h.mirrors.base
  refine ⟨{ h.mirrors with
      base := congrArg (fun log => (state, log ++ [(q, result)])) hbase },
    h.span, calls ++ [(q, result)], own,
    added ++ s.failuresOf n q (.ok result), added', ?_, ?_, ?_, ?_,
    hevents', hcontent⟩
  · rw [hcalls, List.append_assoc]
  · rw [hspans]
    simp [loadSpans]
  · rw [hevents, List.append_assoc]
  · refine (hperm.append_right _).trans (.of_eq ?_)
    simp [loadFailures]

/-- A span around a call is seen in front of the spans of the call, and
its failure behind all others. -/
theorem Watched.traced {span : SpanRecord}
    {call : Act (Logged Q V E X) (Except E V)}
    {outcome : Except Crash (Except E V)}
    (hcall : call.settled (w.opened span) = (outcome, next))
    (h : s.Watched n spans failures (w.opened span) w' next next') :
    ∃ last,
      (World.traced span s.errorText call).settled w = (outcome, last)
        ∧ s.Watched n (span.closed outcome :: spans)
            (failures ++ span.failures s.errorText outcome) w w' last
            next' := by
  obtain ⟨calls, own, added, added', hcalls, hspans, hevents, hperm,
    hevents', hcontent⟩ := h.seen
  have hmore : next.spans
      = w.spans ++ span :: (spans ++ s.loadSpans n calls) := by
    rw [hspans]
    simp [World.opened]
  refine ⟨_, World.settled_traced span s.errorText call w hcall hmore,
    { h.mirrors with }, rfl, calls, own,
    added ++ span.failures s.errorText outcome, added', hcalls, ?_, ?_, ?_,
    hevents', hcontent⟩
  · simp
  · rw [hevents, List.append_assoc]
    rfl
  · refine (hperm.append_right _).trans ?_
    simpa only [List.append_assoc] using
      append_append_perm (own ++ failures) (s.loadFailures n calls) _

end

/-! ## Steps on both worlds -/

/-- Steps that are paired in worlds watched since `w` and `w'`. -/
abbrev Synced (s : Service Q V E X) (n : Nat) (w w' : Logged Q V E X)
    {α β : Type} (P : α → β → Prop) (m : StateM (Logged Q V E X) α)
    (m' : StateM (Logged Q V E X) β) : Prop :=
  Paired (s.Watched n [] [] w w') P m m'

section

variable {α : Type}

theorem synced_onStore (g : Store → α × Store) :
    s.Synced n w w' Eq (World.onStore g) (World.onStore g) := by
  intro next next' h
  have hstore := h.mirrors.store
  refine ⟨congrArg (fun t => (g t).1) hstore, ?_⟩
  refine h.quiet ?_ rfl rfl rfl rfl rfl
  exact { h.mirrors with store := congrArg (fun t => (g t).2) hstore }

theorem synced_onLocks (g : LockTable → α × LockTable) :
    s.Synced n w w' Eq (World.onLocks g) (World.onLocks g) := by
  intro next next' h
  have hlocks := h.mirrors.locks
  refine ⟨congrArg (fun t => (g t).1) hlocks, ?_⟩
  refine h.quiet ?_ rfl rfl rfl rfl rfl
  exact { h.mirrors with locks := congrArg (fun t => (g t).2) hlocks }

theorem synced_draw : s.Synced n w w' Eq World.draw World.draw := by
  intro next next' h
  have hwords := h.mirrors.words
  unfold World.draw
  rw [hwords]
  split
  · exact ⟨rfl, h⟩
  · refine ⟨rfl, h.quiet ?_ rfl rfl rfl rfl rfl⟩
    exact { h.mirrors with words := rfl }

theorem synced_report (e : Event) :
    s.Synced n w w' Eq (World.report e) (World.report e) :=
  fun _ _ h => ⟨rfl, h.reported e⟩

theorem synced_submit {r r' : Refresh V E (Inner Q)}
    (hr : r.Alike (Behind n) r') :
    s.Synced n w w' Eq (World.submit r) (World.submit r') := by
  intro next next' h
  refine ⟨rfl, h.quiet ?_ rfl rfl rfl rfl rfl⟩
  exact { h.mirrors with
    queue := List.rel_append h.mirrors.queue (.cons ⟨hr, rfl⟩ .nil)
    submitted := congrArg (· + 1) h.mirrors.submitted }

end

/-! ## Coupled layers -/

/-- A request through the decorators behind the cache is one call of the
base in both worlds. -/
theorem synced_load (c : Wiring) (q : Q) :
    s.Synced n w w' Eq
      (s.recorded.answer c (List.replicate n .trace) q).settled
      (s.recorded.answer c [] q).settled := by
  intro next next' h
  have hbare : (s.recorded.answer c [] q).settled next' = _ :=
    answer_traces s.recorded c 0 q next'
  rw [answer_traces, hbare, spansOf_zero, failuresOf_zero, List.append_nil,
    List.append_nil]
  have hloaded := h.loaded q (s.base q next.base.1).1
    (s.base q next.base.1).2
  rw [← h.mirrors.base] at hloaded ⊢
  exact ⟨rfl, hloaded⟩

/-- The layers of both worlds are coupled, if their loaders are. -/
theorem coupled_host (c : Wiring)
    {load load' : Inner Q → Act (Logged Q V E X) (Except E V)}
    (hload : ∀ l l', Behind n l l' →
      s.Synced n w w' Eq (load l).settled (load' l').settled) :
    Host.Coupled (s.Watched n [] [] w w') (Behind n)
      (c.host load fun _ => 0) (c.host load' fun _ => 0) where
  get _ := synced_onStore _
  set _ _ _ := synced_onStore _
  setError _ _ _ := synced_onStore _
  delete _ := synced_onStore _
  lock := by
    show Option.Rel _ (Wiring.lock? c.locker) (Wiring.lock? c.locker)
    cases c.locker with
    | none => exact .none
    | table => exact .some fun key => synced_onLocks _
    | populating value =>
      refine .some fun key => (synced_onStore _).bindEq ?_
      intro answer
      cases answer with
      | error e => exact .pure rfl
      | ok _ => exact synced_onLocks _
  release _ := synced_onLocks _
  offer := by
    intro f l' entry hl
    unfold Layer.offerRefresh Wiring.host Fetch.withLoader
    dsimp only
    by_cases hexecutor : c.executor = .none
    · simp only [hexecutor, if_true]
      exact .pure rfl
    · simp only [hexecutor, if_false]
      split
      · refine (synced_report _).bindEq fun _ => ?_
        exact synced_submit ⟨l', hl, rfl⟩
      · exact .pure rfl
  load := hload
  pauses _ _ _ := rfl
  draw := synced_draw
  report := synced_report

/-- The host of queued refreshes, in both worlds. -/
theorem coupled_refreshes (c : Wiring) :
    Host.Coupled (s.Watched n [] [] w w') (Behind n) (s.recorded.host c)
      (s.recorded.host c) := by
  refine coupled_host c ?_
  rintro ⟨layers, q⟩ l' ⟨hlayers, rfl⟩
  obtain rfl : layers = List.replicate n .trace := hlayers
  exact synced_load c q

/-! ## Queued refreshes -/

theorem synced_takeQueue :
    s.Synced n w w' (List.Forall₂ (Job.Alike (Behind n))) World.takeQueue
      World.takeQueue := by
  intro next next' hw
  refine ⟨hw.mirrors.queue, hw.quiet ?_ rfl rfl rfl rfl rfl⟩
  exact { hw.mirrors with queue := .nil }

theorem synced_takeJob :
    s.Synced n w w' (Option.Rel (Job.Alike (Behind n))) World.takeJob
      World.takeJob := by
  intro next next' hw
  have hparts : Option.Rel (Job.Alike (Behind n)) next.queue.head?
        next'.queue.head?
      ∧ List.Forall₂ (Job.Alike (Behind n)) next.queue.tail
          next'.queue.tail := by
    have hqueue := hw.mirrors.queue
    revert hqueue
    generalize next.queue = jobs, next'.queue = jobs'
    rintro (_ | ⟨hj, hjobs⟩)
    · exact ⟨.none, .nil⟩
    · exact ⟨.some hj, hjobs⟩
  refine ⟨hparts.1, hw.quiet ?_ rfl rfl rfl rfl rfl⟩
  exact { hw.mirrors with queue := hparts.2 }

theorem synced_returnJob {j j' : Job V E (Inner Q)}
    (hj : j.Alike (Behind n) j') :
    s.Synced n w w' Eq (World.returnJob j) (World.returnJob j') := by
  intro next next' hw
  unfold World.returnJob
  rw [← hj.2]
  cases j.stage.isFinal with
  | true => exact ⟨rfl, hw⟩
  | false =>
    refine ⟨rfl, hw.quiet ?_ rfl rfl rfl rfl rfl⟩
    exact { hw.mirrors with
      queue := List.rel_append hw.mirrors.queue (.cons hj .nil) }

section

variable {h : Host (Logged Q V E X) V E (Inner Q)}
  (hc : Host.Coupled (s.Watched n [] [] w w') (Behind n) h h)

include hc

theorem synced_runAll {rs rs' : List (Refresh V E (Inner Q))}
    (hrs : List.Forall₂ (Refresh.Alike (Behind n)) rs rs') :
    s.Synced n w w' Eq (World.runAll h rs).settled
      (World.runAll h rs').settled := by
  induction hrs with
  | nil => exact .pure rfl
  | cons hr _ ih =>
    obtain ⟨l', hl, rfl⟩ := hr
    exact (Layer.paired_refresh hc _ hl).actBind fun _ => ih

theorem synced_runQueued :
    s.Synced n w w' Eq (World.runQueued h).settled
      (World.runQueued h).settled := by
  unfold World.runQueued
  refine synced_takeQueue.safeBind ?_
  intro jobs jobs' hjobs
  refine (synced_runAll hc ?_).actBind fun _ => ?_
  · rw [List.forall₂_map_left_iff, List.forall₂_map_right_iff]
    exact hjobs.imp fun _ _ hj => hj.1
  · rw [hjobs.length_eq]
    exact .pure rfl

theorem synced_giveTurns (turns : Nat) :
    s.Synced n w w' Eq (World.giveTurns h turns)
      (World.giveTurns h turns) := by
  induction turns with
  | zero => exact .pure rfl
  | succ turns ih =>
    unfold World.giveTurns
    refine synced_takeJob.bind ?_
    intro job job' hjob
    cases hjob with
    | none => exact .pure rfl
    | some hj =>
      refine (Layer.paired_pollJob hc hj).bind ?_
      intro next next' hnext
      exact (synced_returnJob hnext).bindEq fun _ => ih

theorem synced_runTasks (c : Wiring) :
    s.Synced n w w' Eq (Operation.runTasks h c).settled
      (Operation.runTasks h c).settled := by
  unfold Operation.runTasks
  split
  · exact (synced_giveTurns hc _).safeBindEq fun _ => .pure rfl
  · exact (synced_runQueued hc).actMap _

end

/-! ## Whatever happens beside the calls -/

theorem synced_hold (key : String) :
    s.Synced n w w' Eq (World.hold key) (World.hold key) := by
  unfold World.hold
  refine (synced_onLocks _).bindEq ?_
  intro granted
  cases granted with
  | false => exact .pure rfl
  | true =>
    refine Paired.bindEq ?_ fun _ => .pure rfl
    intro next next' h
    refine ⟨rfl, h.quiet ?_ rfl rfl rfl rfl rfl⟩
    exact { h.mirrors with
      outside := congrArg (key :: ·) h.mirrors.outside }

theorem synced_unhold (key : String) :
    s.Synced n w w' Eq (World.unhold key) (World.unhold key) := by
  have hget : s.Synced n w w'
      (fun next next' => next.outside = next'.outside) get get :=
    fun next next' h => ⟨h.mirrors.outside, h⟩
  unfold World.unhold
  refine hget.bind ?_
  intro next next' hout
  rw [hout]
  split
  · refine Paired.bindEq ?_ fun _ =>
      (synced_onLocks _).bindEq fun _ => .pure rfl
    intro next next' h
    refine ⟨rfl, h.quiet ?_ rfl rfl rfl rfl rfl⟩
    exact { h.mirrors with
      outside := congrArg (·.erase key) h.mirrors.outside }
  · exact .pure rfl

end Service

/-- Whether an operation is no call through the layer. -/
def Operation.IsAmbient {V E L : Type} : Operation V E L → Prop
  | fetch _ => False
  | concurrent _ => False
  | _ => True

namespace Service

variable {s : Service Q V E X} {n : Nat} {w w' : Logged Q V E X}

/-- What happens beside the calls is the same in both worlds. -/
theorem synced_perform (c : Wiring) {op : Operation V E (Inner Q)}
    (hop : op.IsAmbient) :
    s.Synced n w w' Eq (op.perform (s.recorded.host c) c).settled
      (op.perform (s.recorded.host c) c).settled := by
  have hc : Host.Coupled (s.Watched n [] [] w w') (Behind n)
    (s.recorded.host c) (s.recorded.host c) := coupled_refreshes c
  cases op with
  | fetch f => cases hop
  | concurrent fs => cases hop
  | evictOnSuccess method keys result =>
    have hevict := Layer.paired_evictOnSuccess hc method keys result
    exact hevict.safeMap _
  | evictKeys method keys =>
    exact (Layer.paired_evictKeys hc method keys).safeMap _
  | runQueued => exact synced_runTasks hc c
  | preload key e =>
    intro next next' h
    refine ⟨rfl, h.quiet ?_ rfl rfl rfl rfl rfl⟩
    exact { h.mirrors with
      store := congrArg (·.put key e) h.mirrors.store }
  | age key remaining => exact (synced_onStore _).safeMap _
  | undeletable key =>
    intro next next' h
    refine ⟨rfl, h.quiet ?_ rfl rfl rfl rfl rfl⟩
    have hstore : (World.keepKey key next).store
        = (World.keepKey key next').store := by
      simp only [World.keepKey, h.mirrors.store]
    exact { h.mirrors with store := hstore }
  | switch faults =>
    intro next next' h
    refine ⟨rfl, h.quiet ?_ rfl rfl rfl rfl rfl⟩
    have hstore : (World.applySwitches faults next).store
        = (World.applySwitches faults next').store := by
      simp only [World.applySwitches, h.mirrors.store]
    have hlocks : (World.applySwitches faults next).locks
        = (World.applySwitches faults next').locks := by
      simp only [World.applySwitches, h.mirrors.locks]
    exact { h.mirrors with store := hstore, locks := hlocks }
  | hold key => exact (synced_hold key).safeMap _
  | unhold key => exact (synced_unhold key).safeMap _
  | isHeld key =>
    intro next next' h
    refine ⟨?_, h⟩
    show Except.ok (Reply.flag (next.locks.isHeld key))
      = Except.ok (Reply.flag (next'.locks.isHeld key))
    rw [h.mirrors.locks]
  | get key => exact (synced_onStore _).safeMap _
  | set key v ttl => exact (synced_onStore _).safeMap _
  | setError key e ttl => exact (synced_onStore _).safeMap _
  | delete keys => exact (synced_onStore _).safeMap _
  | describe => exact .pure rfl

end Service

end PolicyWeave
