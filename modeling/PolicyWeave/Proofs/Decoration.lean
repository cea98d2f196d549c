import Mathlib.Data.List.Induction
import PolicyWeave.Decoration

/-!
# What a workshop builds

A workshop builds the composition of the decorators that were registered
so far, and a snapshot that of those registered before it was taken,
whatever happens between and through however many copies.

There are three groups.

* `nested` is a composition, written out from its outermost decorator.
* `registered` and `pasts` read a history of steps: which decorators it
  registers, and behind which of its beginnings each snapshot was taken.
  `Builds` says by them what a step is to build, and `Workshop.run` are
  the values that a history does build.
* `logging` are decorators that log before and behind the inner call.

`Workshop.builds_in_order` is the result.
-/

namespace PolicyWeave

variable {α : Type}

/-! ## Compositions -/

/-- The first decorator around the composition of the others. -/
def nested : List (α → α) → α → α
  | [], base => base
  | layer :: rest, base => layer (nested rest base)

theorem Stack.build_eq_nested (s : Stack α) :
    s.build = nested s.layers s.base := by
  unfold Stack.build
  induction s.layers with
  | nil => rfl
  | cons layer rest ih => rw [List.foldr_cons, ih, nested]

/-! ## Histories -/

/-- The decorator that a step registers. -/
def WorkshopStep.layer? : WorkshopStep α → Option (α → α)
  | .register layer => some layer
  | _ => none

/-- The decorators that a history registers, in order. -/
def registered (history : List (WorkshopStep α)) : List (α → α) :=
  history.filterMap WorkshopStep.layer?

/-- The snapshots that were taken, with what a step behind `past` adds to
them.  A copy was taken where its original was. -/
def WorkshopStep.note (past : List (WorkshopStep α))
    (taken : List (List (WorkshopStep α))) :
    WorkshopStep α → List (List (WorkshopStep α))
  | .snapshot => taken ++ [past]
  | .copy i => taken ++ taken[i]?.toList
  | _ => taken

/-- The snapshots taken by the end of some steps behind `past`. -/
def pastsFrom (past : List (WorkshopStep α))
    (taken : List (List (WorkshopStep α))) :
    List (WorkshopStep α) → List (List (WorkshopStep α))
  | [] => taken
  | step :: rest => pastsFrom (past ++ [step]) (step.note past taken) rest

/-- For each snapshot, in the order of their numbers, the beginning of the
history behind which it was taken. -/
def pasts (history : List (WorkshopStep α)) :
    List (List (WorkshopStep α)) :=
  pastsFrom [] [] history

/-- What a step builds behind a history. -/
inductive Builds (base : α) (history : List (WorkshopStep α)) :
    WorkshopStep α → Option α → Prop where
  | register (layer : α → α) : Builds base history (.register layer) none
  | snapshot : Builds base history .snapshot none
  | copy (i : Nat) : Builds base history (.copy i) none
  | build :
    Builds base history .build (some (nested (registered history) base))
  | buildSnapshot {i : Nat} {past : List (WorkshopStep α)}
      (taken : (pasts history)[i]? = some past) :
    Builds base history (.buildSnapshot i)
      (some (nested (registered past) base))
  | missing {i : Nat} (missing : (pasts history)[i]? = none) :
    Builds base history (.buildSnapshot i) none

/-- A step builds one thing at most. -/
theorem Builds.unique {base : α} {history : List (WorkshopStep α)}
    {step : WorkshopStep α} {built other : Option α}
    (h : Builds base history step built)
    (h' : Builds base history step other) : built = other := by
  cases h with
  | register layer => cases h'; rfl
  | snapshot => cases h'; rfl
  | copy i => cases h'; rfl
  | build => cases h'; rfl
  | buildSnapshot taken =>
    cases h' with
    | buildSnapshot taken' =>
      rw [Option.some.inj (taken.symm.trans taken')]
    | missing missing => cases taken.symm.trans missing
  | missing missing =>
    cases h' with
    | buildSnapshot taken => cases taken.symm.trans missing
    | missing => rfl

theorem registered_append_singleton (history : List (WorkshopStep α))
    (step : WorkshopStep α) :
    registered (history ++ [step])
      = registered history ++ step.layer?.toList := by
  rw [registered, List.filterMap_append]
  cases step <;> rfl

theorem pastsFrom_append_singleton (past : List (WorkshopStep α))
    (taken : List (List (WorkshopStep α)))
    (steps : List (WorkshopStep α)) (step : WorkshopStep α) :
    pastsFrom past taken (steps ++ [step])
      = step.note (past ++ steps) (pastsFrom past taken steps) := by
  induction steps generalizing past taken with
  | nil => simp [pastsFrom]
  | cons first steps ih => simp [pastsFrom, ih]

theorem pasts_append_singleton (history : List (WorkshopStep α))
    (step : WorkshopStep α) :
    pasts (history ++ [step]) = step.note history (pasts history) := by
  rw [pasts, pastsFrom_append_singleton, List.nil_append, pasts]

namespace Workshop

/-- The workshop behind a history. -/
def after (base : α) (history : List (WorkshopStep α)) : Workshop α :=
  history.foldl (fun w step => (w.perform step).2) (.new base)

/-- What each of some steps builds, one after another, and the workshop
behind them. -/
def run (w : Workshop α) :
    List (WorkshopStep α) → List (Option α) × Workshop α
  | [] => ([], w)
  | step :: rest =>
    let (built, next) := w.perform step
    let (others, last) := run next rest
    (built :: others, last)

theorem after_append_singleton (base : α) (history : List (WorkshopStep α))
    (step : WorkshopStep α) :
    after base (history ++ [step])
      = ((after base history).perform step).2 := by
  rw [after, List.foldl_append]
  rfl

/-- What a step adds to a workshop that a history has led to. -/
theorem perform_stacks (base : α) (history : List (WorkshopStep α))
    (step : WorkshopStep α) :
    let stackOf := fun past => (⟨base, registered past⟩ : Stack α)
    ((⟨stackOf history, (pasts history).map stackOf⟩ :
        Workshop α).perform step).2
      = ⟨stackOf (history ++ [step]),
        (pasts (history ++ [step])).map stackOf⟩ := by
  intro stackOf
  have hstack : stackOf (history ++ [step])
      = ⟨base, registered history ++ step.layer?.toList⟩ := by
    rw [← registered_append_singleton]
  rw [hstack, pasts_append_singleton]
  cases step with
  | register layer => rfl
  | snapshot =>
    simp [perform, WorkshopStep.layer?, WorkshopStep.note, stackOf]
  | copy i =>
    cases htaken : (pasts history)[i]? <;>
      simp [perform, WorkshopStep.layer?, WorkshopStep.note, stackOf,
        htaken]
  | build => simp [perform, WorkshopStep.layer?, WorkshopStep.note, stackOf]
  | buildSnapshot i =>
    simp [perform, WorkshopStep.layer?, WorkshopStep.note, stackOf]

/-- A workshop holds what its history registers, and each snapshot what
was registered before it was taken. -/
theorem after_eq (base : α) (history : List (WorkshopStep α)) :
    after base history
      = ⟨⟨base, registered history⟩,
        (pasts history).map fun past => ⟨base, registered past⟩⟩ := by
  induction history using List.reverseRecOn with
  | nil => rfl
  | append_singleton history step ih =>
    rw [after_append_singleton, ih]
    exact perform_stacks base history step

/-- What is built at some place of a history is built by the step there,
in the workshop that the steps before it lead to. -/
theorem run_getElem? (w : Workshop α) (before : List (WorkshopStep α))
    (step : WorkshopStep α) (rest : List (WorkshopStep α)) :
    (w.run (before ++ step :: rest)).1[before.length]?
      = some ((before.foldl (fun w step => (w.perform step).2)
          w).perform step).1 := by
  induction before generalizing w with
  | nil => rfl
  | cons first before ih => exact ih (w.perform first).2

/-- A step builds what the steps before it say. -/
theorem builds_perform (base : α) (history : List (WorkshopStep α))
    (step : WorkshopStep α) :
    Builds base history step ((after base history).perform step).1 := by
  rw [after_eq]
  cases step with
  | register layer => exact .register layer
  | snapshot => exact .snapshot
  | copy i => exact .copy i
  | build =>
    simp only [perform, Stack.build_eq_nested]
    exact .build
  | buildSnapshot i =>
    cases htaken : (pasts history)[i]? with
    | none =>
      simp only [perform, List.getElem?_map, htaken, Option.map_none]
      exact .missing htaken
    | some past =>
      simp only [perform, List.getElem?_map, htaken, Option.map_some,
        Stack.build_eq_nested]
      exact .buildSnapshot htaken

end Workshop

/-! ## Logs -/

section Logs

variable {ε ρ : Type}

/-- A decorator that logs one event before the inner call and one behind
it. -/
def logging (events : ε × ε) (inner : StateM (List ε) ρ) :
    StateM (List ε) ρ := do
  modify (· ++ [events.1])
  let result ← inner
  modify (· ++ [events.2])
  return result

/-- A call enters the decorators in order, runs the base, and leaves them
in the opposite order. -/
theorem nested_logging (events : List (ε × ε))
    (base : StateM (List ε) ρ) (log : List ε) :
    nested (events.map logging) base log
      = ((base (log ++ events.map Prod.fst)).1,
        (base (log ++ events.map Prod.fst)).2
          ++ (events.map Prod.snd).reverse) := by
  induction events generalizing log with
  | nil =>
    rw [List.map_nil, List.map_nil, List.map_nil, List.append_nil,
      List.reverse_nil, List.append_nil]
    rfl
  | cons event events ih =>
    show ((nested (events.map logging) base (log ++ [event.1])).1,
        (nested (events.map logging) base (log ++ [event.1])).2
          ++ [event.2]) = _
    rw [ih]
    simp

end Logs

/-- The same for a visit, which counts its decorators. -/
theorem Visit.nested_layer (names : List String) (name : String) :
    nested (names.map Visit.layer) (.base name)
      = ⟨names.map ("+" ++ ·) ++ name :: (names.map ("-" ++ ·)).reverse,
        names.length⟩ := by
  induction names with
  | nil => rfl
  | cons first names ih =>
    rw [List.map_cons, nested, ih]
    simp [Visit.layer]

/-! ## The result -/

/-- Workshops build in order.  A step at any place of a history builds
what the steps before it say: the workshop itself all decorators that are
registered by then, a snapshot those registered before it was taken, the
first one outermost, and without any the base itself.  A call through
logging decorators enters them in order, reaches the base once and leaves
them in the opposite order, and so does a visit. -/
theorem Workshop.builds_in_order :
    (∀ (α : Type) (base : α) (before : List (WorkshopStep α))
        (step : WorkshopStep α) (rest : List (WorkshopStep α))
        (built : Option α),
        ((new base).run (before ++ step :: rest)).1[before.length]?
            = some built
          ↔ Builds base before step built)
      ∧ (∀ (α : Type) (base : α), nested [] base = base)
      ∧ (∀ (ε ρ : Type) (events : List (ε × ε))
          (base : StateM (List ε) ρ) (log : List ε),
          nested (events.map logging) base log
            = ((base (log ++ events.map Prod.fst)).1,
              (base (log ++ events.map Prod.fst)).2
                ++ (events.map Prod.snd).reverse))
      ∧ ∀ (names : List String) (name : String),
          nested (names.map Visit.layer) (.base name)
            = ⟨names.map ("+" ++ ·)
                ++ name :: (names.map ("-" ++ ·)).reverse,
              names.length⟩ := by
  refine ⟨?_, fun _ _ => rfl, ?_, Visit.nested_layer⟩
  · intro α base before step rest built
    rw [run_getElem?, Option.some.injEq]
    have hbuilds := builds_perform base before step
    constructor
    · rintro rfl
      exact hbuilds
    · exact hbuilds.unique
  · intro ε ρ events base log
    exact nested_logging events base log

/-- A snapshot keeps what was registered before it. -/
example :
    ((Workshop.new (Visit.base "Z")).run
      [.register (Visit.layer "A"), .snapshot, .register (Visit.layer "B"),
        .buildSnapshot 0, .build]).1
      = [none, none, none, some ⟨["+A", "Z", "-A"], 1⟩,
        some ⟨["+A", "+B", "Z", "-B", "-A"], 2⟩] := by
  decide

end PolicyWeave
