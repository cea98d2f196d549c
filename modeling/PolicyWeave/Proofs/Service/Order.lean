import PolicyWeave.Decoration
import PolicyWeave.Proofs.Service.Observation
import PolicyWeave.Sample.Users

/-!
# The order of decorators

A service with one caching decorator and any number of tracing ones
answers what it answers with the caching decorator alone, wherever the
others stand.  What differs is the spans and the events that are seen.

There are four groups.

* Decorated services.  `Service.build` builds a service of registered
  decorators, and `build_eq` says that it answers as `Service.answer`.
* Calls through the cache, with tracing decorators behind it and then in
  front of it: `watched_answer`, by induction on the latter.
* Runs.  `Service.afterAll` is the world after a list of steps, and
  `mirrors_afterAll` holds of all of them by induction from one step.
* `Service.order_observed` is the result.
-/

namespace PolicyWeave

variable {Q V E X : Type}

/-- Decorators of which one caches are that one between tracing ones. -/
theorem ServiceLayer.eq_of_count {registered : List ServiceLayer}
    (h : registered.count .cache = 1) :
    registered = List.replicate (registered.idxOf .cache) .trace
      ++ .cache :: List.replicate
          (registered.length - (registered.idxOf .cache + 1)) .trace := by
  induction registered with
  | nil => cases h
  | cons layer rest ih =>
    cases layer with
    | cache =>
      rw [List.count_cons_self, Nat.add_eq_right] at h
      have hrest : rest = List.replicate rest.length .trace := by
        refine List.eq_replicate_iff.mpr ⟨rfl, fun layer hlayer => ?_⟩
        cases layer with
        | trace => rfl
        | cache => exact absurd hlayer (List.count_eq_zero.mp h)
      rw [List.idxOf_cons_self]
      simpa using hrest
    | trace =>
      have hne : ServiceLayer.trace ≠ .cache := by decide
      rw [List.count_cons_of_ne hne] at h
      rw [List.idxOf_cons_ne rest hne]
      simpa [List.replicate_succ] using ih h

/-- Decorators that are registered one after another come to stand in this
order. -/
theorem Stack.foldl_register {α : Type} (stack : Stack α)
    (layers : List (α → α)) :
    layers.foldl register stack
      = { stack with layers := stack.layers ++ layers } := by
  induction layers generalizing stack with
  | nil => simp
  | cons layer rest ih =>
    rw [List.foldl_cons, ih]
    simp [register]

namespace Service

/-! ## Decorated services -/

/-- A service with its decorators, the outermost first. -/
structure Decorated (Q V E X : Type) where
  layers : List ServiceLayer
  answer : Q → Act (World V E (Inner Q) X) (Except E V)

variable (s : Service Q V E X) (c : Wiring)

/-- The base alone. -/
def undecorated : Decorated Q V E X := ⟨[], s.answerBase⟩

/-- A decorator around a service.  What a caching one hands on is known by
the decorators behind it. -/
def decorate (layer : ServiceLayer) (inner : Decorated Q V E X) :
    Decorated Q V E X where
  layers := layer :: inner.layers
  answer q :=
    match layer with
    | .trace => tracedCall s.errorText (s.policy q) (inner.answer q)
    | .cache =>
      cachedCall (c.host (fun l => inner.answer l.2) fun _ => 0) (s.codec q)
        (s.policy q) (inner.layers, q) (inner.answer q)

/-- The service that is built of registered decorators. -/
def build (registered : List ServiceLayer) : Decorated Q V E X :=
  ((registered.map (s.decorate c)).foldl Stack.register
    (Stack.new s.undecorated)).build

/-- The service that is built answers through all its decorators, the one
registered first being the outermost. -/
theorem build_eq (registered : List ServiceLayer) :
    s.build c registered = ⟨registered, s.answer c registered⟩ := by
  rw [build, Stack.foldl_register]
  unfold Stack.build
  rw [Stack.new, List.nil_append, List.foldr_map]
  induction registered with
  | nil => rfl
  | cons layer rest ih =>
    rw [List.foldr_cons, ih]
    cases layer <;> rfl

/-! ## Calls through the cache -/

section

variable {s} {n : Nat} {w w' : Logged Q V E X}

theorem synced_warnings (events : List Event) :
    s.Synced n w w' Eq
      (Act.settled (events.forM fun e => Act.safe (World.report e)))
      (Act.settled (events.forM fun e => Act.safe (World.report e))) := by
  induction events with
  | nil => exact .pure rfl
  | cons e rest ih =>
    exact Paired.safeBindEq (k := fun _ => rest.forM _)
      (j := fun _ => rest.forM _) (synced_report e) fun _ => ih

theorem synced_cachedCall
    {h h' : Host (Logged Q V E X) V E (Inner Q)}
    (hc : Host.Coupled (s.Watched n [] [] w w') (Behind n) h h')
    (codec : Codec V E) (p : CallPolicy) {l l' : Inner Q}
    (hl : Behind n l l')
    {inner inner' : Act (Logged Q V E X) (Except E V)}
    (hinner : s.Synced n w w' Eq inner.settled inner'.settled) :
    s.Synced n w w' Eq (cachedCall h codec p l inner).settled
      (cachedCall h' codec p l' inner').settled := by
  unfold cachedCall
  refine (synced_warnings p.warnings).actBind fun _ => ?_
  split
  · rename_i settings key hcache
    exact Layer.paired_fetch hc ⟨settings, key, codec, l, p.evict⟩ hl
  · refine hinner.actBind fun result => ?_
    split
    · rename_i keys hevict
      exact (Layer.paired_evictOnSuccess hc p.label keys result).safeMap id
    · exact .pure rfl

/-- A call through the cache in both worlds. -/
theorem synced_cached (c : Wiring) (q : Q) :
    s.Synced n w w' Eq
      (s.recorded.answer c (.cache :: List.replicate n .trace) q).settled
      (s.recorded.answer c [.cache] q).settled := by
  refine synced_cachedCall (coupled_host c ?_) _ _ ⟨rfl, rfl⟩
    (synced_load c q)
  rintro ⟨layers, q'⟩ l' ⟨-, rfl⟩
  exact synced_load c q'

/-- A call through tracing decorators, the cache and more tracing
decorators behind it, beside a call through the cache alone. -/
theorem watched_answer (c : Wiring) (m : Nat) (q : Q)
    (h : Mirrors n w w') :
    let bare := (s.recorded.answer c [.cache] q).settled w'
    ∃ next,
      (s.recorded.answer c (List.replicate m .trace
        ++ .cache :: List.replicate n .trace) q).settled w = (bare.1, next)
      ∧ s.Watched n (s.spansOf m q bare.1) (s.failuresOf m q bare.1) w w'
          next bare.2 := by
  intro bare
  induction m generalizing w with
  | zero =>
    rw [spansOf_zero, failuresOf_zero]
    obtain ⟨hanswer, hwatched⟩ := synced_cached c q w w' (.refl h)
    refine ⟨_, ?_, hwatched⟩
    rw [← hanswer]
    rfl
  | succ m ih =>
    rw [List.replicate_succ, List.cons_append, answer, tracedCall]
    have hpolicy : s.recorded.policy q = s.policy q := rfl
    rw [hpolicy]
    cases htrace : (s.policy q).trace with
    | none =>
      have hcall := ih h
      rw [spansOf_of_none htrace, failuresOf_of_none htrace] at hcall ⊢
      exact hcall
    | some span =>
      have hopened : Mirrors n (w.opened span) w' := { h with }
      obtain ⟨next, hrun, hwatched⟩ := ih hopened
      rw [spansOf_succ htrace, failuresOf_succ htrace]
      exact hwatched.traced hrun

end

/-! ## Runs -/

/-- A step of a run: a call, or an operation beside the calls. -/
inductive Step (Q V E : Type) where
  | call (q : Q)
  | beside (op : Operation V E (Inner Q)) (hop : op.IsAmbient)

/-- The world after a step.  A crash does not keep the next step from
being made. -/
def after (s : Service Q V E X) (c : Wiring)
    (registered : List ServiceLayer) (w : World V E (Inner Q) X) :
    Step Q V E → World V E (Inner Q) X
  | .call q => (((s.build c registered).answer q).settled w).2
  | .beside op _ => ((op.perform (s.host c) c).settled w).2

/-- The world of a run that starts with an empty cache, and with a base
that has not been called. -/
def start (words : List Nat) (x : X) : Logged Q V E X :=
  { World.initial (x, []) with words }

/-- The world after a run. -/
def afterAll (s : Service Q V E X) (c : Wiring)
    (registered : List ServiceLayer) (words : List Nat) (x : X)
    (steps : List (Step Q V E)) : Logged Q V E X :=
  steps.foldl (s.recorded.after c registered) (start words x)

section

variable {s : Service Q V E X} {registered : List ServiceLayer}
  {before behind : Nat} {w w' : Logged Q V E X}
  (hlayers : registered = List.replicate before .trace
    ++ .cache :: List.replicate behind .trace)

include hlayers

/-- A call of the service that is built. -/
theorem watched_call (c : Wiring) (h : Mirrors behind w w') (q : Q) :
    let run := ((s.recorded.build c registered).answer q).settled w
    let bare := ((s.recorded.build c [.cache]).answer q).settled w'
    run.1 = bare.1
      ∧ s.Watched behind (s.spansOf before q run.1)
          (s.failuresOf before q run.1) w w' run.2 bare.2 := by
  subst hlayers
  rw [build_eq, build_eq]
  obtain ⟨next, hrun, hwatched⟩ := watched_answer c before q h
  intro run bare
  have hrun : run = (bare.1, next) := hrun
  rw [hrun]
  exact ⟨rfl, hwatched⟩

/-- The same happens to cache and base in every step. -/
theorem mirrors_after (c : Wiring) (h : Mirrors behind w w')
    (step : Step Q V E) :
    Mirrors behind (s.recorded.after c registered w step)
      (s.recorded.after c [.cache] w' step) := by
  cases step with
  | call q => exact (watched_call hlayers c h q).2.mirrors
  | beside op hop =>
    exact (synced_perform c hop w w' (Watched.refl (s := s) h)).2.mirrors

/-- And so it does in every run, by induction on its steps. -/
theorem mirrors_afterAll (c : Wiring) (words : List Nat) (x : X)
    (steps : List (Step Q V E)) :
    Mirrors behind (s.afterAll c registered words x steps)
      (s.afterAll c [.cache] words x steps) := by
  have hsteps : ∀ w w' : Logged Q V E X, Mirrors behind w w' →
      Mirrors behind (steps.foldl (s.recorded.after c registered) w)
        (steps.foldl (s.recorded.after c [.cache]) w') := by
    induction steps with
    | nil => exact fun _ _ h => h
    | cons step rest ih =>
      intro w w' h
      exact ih _ _ (mirrors_after hlayers c h step)
  exact hsteps _ _ ⟨rfl, rfl, rfl, .nil, rfl, rfl, rfl⟩

end

/-! ## The result -/

/-- A service with one caching decorator and any number of tracing ones,
registered in any order, beside the service with the caching decorator
alone.  After any run of calls and of other operations the same has
happened to cache and base, and whatever comes next comes to the same
outcome and does the same to both.  A call leaves the spans of the tracing
decorators in front of the cache, which are marked if it answers an error.
Each call of the base leaves the spans of those behind the cache, which
are marked if the base answers an error.  For each span that is marked
there is one event about the failure, and all other events are those of
the other service. -/
theorem order_observed (s : Service Q V E X) (c : Wiring)
    (registered : List ServiceLayer) (hcache : registered.count .cache = 1)
    (words : List Nat) (x : X) (steps : List (Step Q V E)) :
    let before := registered.idxOf .cache
    let behind := registered.length - (before + 1)
    let w := s.afterAll c registered words x steps
    let w' := s.afterAll c [.cache] words x steps
    Mirrors behind w w'
      ∧ (∀ q,
          let run := ((s.recorded.build c registered).answer q).settled w
          let bare := ((s.recorded.build c [.cache]).answer q).settled w'
          run.1 = bare.1
            ∧ s.Watched behind (s.spansOf before q run.1)
                (s.failuresOf before q run.1) w w' run.2 bare.2)
      ∧ ∀ op : Operation V E (Inner Q), op.IsAmbient →
          let run := (op.perform (s.recorded.host c) c).settled w
          let bare := (op.perform (s.recorded.host c) c).settled w'
          run.1 = bare.1 ∧ s.Watched behind [] [] w w' run.2 bare.2 := by
  intro before behind w w'
  have hlayers := ServiceLayer.eq_of_count hcache
  have hmirrors : Mirrors behind w w' :=
    mirrors_afterAll hlayers c words x steps
  refine ⟨hmirrors, watched_call hlayers c hmirrors, ?_⟩
  intro op hop
  exact synced_perform c hop w w' (.refl hmirrors)

/-- Two calls for a user that is not there, with a tracing decorator on
either side of the cache.  The first one calls the base and leaves two
spans, and the second one is served from the cache and leaves one. -/
theorem order_observed_users :
    let s := Sample.users
    let c : Wiring := ⟨.table, .queued⟩
    let registered : List ServiceLayer := [.trace, .cache, .trace]
    let missing : Sample.UserRequest := .getUser "c" "404"
    let w := s.afterAll c registered [] [] [.call missing]
    let w' := s.afterAll c [.cache] [] [] [.call missing]
    let run := ((s.recorded.build c registered).answer missing).settled w
    let bare := ((s.recorded.build c [.cache]).answer missing).settled w'
    let idle : Operation Datum Sample.UserError
        (Inner Sample.UserRequest) := .runQueued
    registered.count .cache = 1 ∧ idle.IsAmbient
      ∧ w.spans.length = 2 ∧ w.base.2.length = 1
      ∧ run.2.spans.length = 3 ∧ run.2.base.2.length = 1
      ∧ run.1 = bare.1
      ∧ s.Watched 1 (s.spansOf 1 missing run.1)
          (s.failuresOf 1 missing run.1) w w' run.2 bare.2
      ∧ (let next := (idle.perform (s.recorded.host c) c).settled w
        let next' := (idle.perform (s.recorded.host c) c).settled w'
        next.1 = next'.1 ∧ s.Watched 1 [] [] w w' next.2 next'.2) := by
  intro s c registered missing w w' run bare idle
  have hcache : registered.count .cache = 1 := by decide
  have hlengths : w.spans.length = 2 ∧ w.base.2.length = 1
      ∧ run.2.spans.length = 3 ∧ run.2.base.2.length = 1 := by
    decide +kernel
  obtain ⟨hspans, hcalls, hspans', hcalls'⟩ := hlengths
  obtain ⟨-, hcall, hbeside⟩ := order_observed s c registered hcache [] []
    [.call missing]
  obtain ⟨hanswer, hwatched⟩ := hcall missing
  exact ⟨hcache, trivial, hspans, hcalls, hspans', hcalls', hanswer,
    hwatched, hbeside idle trivial⟩

end Service

end PolicyWeave
