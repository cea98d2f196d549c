import PolicyWeave.Cache.Layer

/-!
# The calls of a layer

A layer works through its host only.  This module says which calls some
steps make on a host, with the answers that came back, so that what a
layer does can be stated as a list of calls in order.

There are four groups.

* `HostCall` is a call with its answer, and `Host.Does` is one operation
  of a host between two states.  A report is an operation that makes no
  call.
* `Host.Trail` is a path of operations with the calls along it.
* `Makes` says of steps that their path makes certain calls and that
  they answer a certain value.  It has one rule for each way to put
  steps together and one for each operation.
* `Host.traced` is a host that writes down its calls.  What it writes
  down is what the path of its operations makes.
-/

namespace PolicyWeave

/-! ## Calls -/

/-- A call on a host with the answer that came back. -/
inductive HostCall (V E L : Type) where
  | get (key : String) (answer : Except BackendError (Option Entry))
  | set (key : String) (value : Json) (ttl : Duration)
      (answer : Except BackendError Unit)
  | setError (key : String) (e : CachedError) (ttl : Duration)
      (answer : Except BackendError Bool)
  | delete (keys : List String) (answer : Except BackendError Unit)
  | lock (key : String) (granted : Bool)
  | release (key : String)
  | submit (r : Refresh V E L)
  | load (loader : L) (answer : Except Crash (Except E V))
  | draw (word : Nat)

variable {S V E L : Type}

/-- One operation of a host, with its call if it makes one. -/
inductive Host.Does (h : Host S V E L) :
    S → Option (HostCall V E L) → S → Prop where
  | get (key : String) (s : S) :
    h.Does s (some (.get key (h.get key s).1)) (h.get key s).2
  | set (key : String) (v : Json) (ttl : Duration) (s : S) :
    h.Does s (some (.set key v ttl (h.set key v ttl s).1))
      (h.set key v ttl s).2
  | setError (key : String) (e : CachedError) (ttl : Duration) (s : S) :
    h.Does s (some (.setError key e ttl (h.setError key e ttl s).1))
      (h.setError key e ttl s).2
  | delete (keys : List String) (s : S) :
    h.Does s (some (.delete keys (h.delete keys s).1))
      (h.delete keys s).2
  | lock {lock : String → StateM S Bool} (hl : h.lock? = some lock)
      (key : String) (s : S) :
    h.Does s (some (.lock key (lock key s).1)) (lock key s).2
  | release (key : String) (s : S) :
    h.Does s (some (.release key)) (h.release key s).2
  | submit {submit : Refresh V E L → StateM S Unit}
      (hs : h.submit? = some submit) (r : Refresh V E L) (s : S) :
    h.Does s (some (.submit r)) (submit r s).2
  | load (loader : L) (s : S) :
    h.Does s (some (.load loader ((h.load loader).settled s).1))
      ((h.load loader).settled s).2
  | draw (s : S) : h.Does s (some (.draw (h.draw s).1)) (h.draw s).2
  | report (e : Event) (s : S) : h.Does s none (h.report e s).2

/-! ## Paths -/

/-- A path of operations with the calls along it. -/
inductive Host.Trail (h : Host S V E L) :
    S → List (HostCall V E L) → S → Prop where
  | nil (s : S) : h.Trail s [] s
  | call {s t u : S} {c : HostCall V E L} {calls : List (HostCall V E L)}
      (first : h.Does s (some c) t) (rest : h.Trail t calls u) :
    h.Trail s (c :: calls) u
  | quiet {s t u : S} {calls : List (HostCall V E L)}
      (first : h.Does s none t) (rest : h.Trail t calls u) :
    h.Trail s calls u

namespace Host.Trail

variable {h : Host S V E L} {s t u : S} {calls more : List (HostCall V E L)}

/-- A path of one operation. -/
theorem single {c : HostCall V E L} (does : h.Does s (some c) t) :
    h.Trail s [c] t :=
  .call does (.nil t)

/-- A path after a path. -/
theorem append (first : h.Trail s calls t) (rest : h.Trail t more u) :
    h.Trail s (calls ++ more) u := by
  induction first with
  | nil s => exact rest
  | call does _ ih => exact .call does (ih rest)
  | quiet does _ ih => exact .quiet does (ih rest)

/-- A path can be parted where its calls are parted. -/
theorem split (path : h.Trail s (calls ++ more) t) :
    ∃ u, h.Trail s calls u ∧ h.Trail u more t := by
  generalize hall : calls ++ more = all at path
  induction path generalizing calls with
  | nil s =>
    obtain ⟨rfl, rfl⟩ := List.append_eq_nil_iff.1 hall
    exact ⟨s, .nil s, .nil s⟩
  | @call s t' u c rest does tail ih =>
    cases calls with
    | nil =>
      rw [List.nil_append] at hall
      subst hall
      exact ⟨s, .nil s, .call does tail⟩
    | cons first others =>
      rw [List.cons_append] at hall
      injection hall with hfirst hrest
      subst hfirst
      obtain ⟨v, hothers, hmore⟩ := ih hrest
      exact ⟨v, .call does hothers, hmore⟩
  | quiet does _ ih =>
    obtain ⟨v, hcalls, hmore⟩ := ih hall
    exact ⟨v, .quiet does hcalls, hmore⟩

/-- A path of one call is one operation, with reports before and after. -/
theorem of_singleton {c : HostCall V E L} (path : h.Trail s [c] t) :
    ∃ u v, h.Trail s [] u ∧ h.Does u (some c) v ∧ h.Trail v [] t := by
  generalize hall : [c] = all at path
  induction path with
  | nil s => cases hall
  | call does rest _ =>
    injection hall with hc hrest
    subst hc
    subst hrest
    exact ⟨_, _, .nil _, does, rest⟩
  | quiet does _ ih =>
    obtain ⟨u, v, hbefore, hdoes, hafter⟩ := ih hall
    exact ⟨u, v, .quiet does hbefore, hdoes, hafter⟩

/-- A call along a path is an operation of the host. -/
theorem does_of_mem (path : h.Trail s calls t) {c : HostCall V E L}
    (hc : c ∈ calls) : ∃ s t, h.Does s (some c) t := by
  induction path with
  | nil s => cases hc
  | call first _ ih =>
    rcases List.mem_cons.1 hc with rfl | hmem
    · exact ⟨_, _, first⟩
    · exact ih hmem
  | quiet _ _ ih => exact ih hc

end Host.Trail

/-! ## Steps and their calls -/

/-- Steps whose path makes calls and whose answer is such that `P` holds
of both. -/
def Makes {α : Type} (h : Host S V E L) (m : StateM S α)
    (P : α → List (HostCall V E L) → Prop) : Prop :=
  ∀ s, ∃ calls, h.Trail s calls (m s).2 ∧ P (m s).1 calls

namespace Makes

variable {h : Host S V E L} {α β : Type}

/-- A weaker statement of the calls. -/
theorem imp {m : StateM S α} {P Q : α → List (HostCall V E L) → Prop}
    (hm : Makes h m P) (hPQ : ∀ a calls, P a calls → Q a calls) :
    Makes h m Q := by
  intro s
  obtain ⟨calls, path, hP⟩ := hm s
  exact ⟨calls, path, hPQ _ _ hP⟩

/-- An answer alone makes no call. -/
theorem pure {a : α} {P : α → List (HostCall V E L) → Prop} (hP : P a []) :
    Makes h (Pure.pure a) P :=
  fun s => ⟨[], .nil s, hP⟩

/-- Steps after steps make the calls of both. -/
theorem bind {m : StateM S α} {k : α → StateM S β}
    {P : α → List (HostCall V E L) → Prop}
    {Q : β → List (HostCall V E L) → Prop} (hm : Makes h m P)
    (hk : ∀ a calls, P a calls →
      Makes h (k a) fun b more => Q b (calls ++ more)) :
    Makes h (m >>= k) Q := by
  intro s
  obtain ⟨calls, path, hP⟩ := hm s
  obtain ⟨more, path', hQ⟩ := hk _ _ hP (m s).2
  exact ⟨calls ++ more, path.append path', hQ⟩

/-- Steps that are followed by a plain function. -/
theorem map {m : StateM S α} {g : α → β}
    {Q : β → List (HostCall V E L) → Prop}
    (hm : Makes h m fun a calls => Q (g a) calls) :
    Makes h (g <$> m) Q :=
  hm

/-- Steps after steps that make one call. -/
theorem bindCall {m : StateM S α} {k : α → StateM S β}
    {c : α → HostCall V E L} {Q : β → List (HostCall V E L) → Prop}
    (hm : Makes h m fun a calls => calls = [c a])
    (hk : ∀ a, Makes h (k a) fun b more => Q b (c a :: more)) :
    Makes h (m >>= k) Q := by
  refine Makes.bind hm ?_
  intro a calls hcalls
  subst hcalls
  exact hk a

/-! ### The operations -/

/-- An operation that makes one call. -/
private theorem of_does {m : StateM S α} {c : α → HostCall V E L}
    (does : ∀ s, h.Does s (some (c (m s).1)) (m s).2)
    {P : α → List (HostCall V E L) → Prop} (hP : ∀ a, P a [c a]) :
    Makes h m P :=
  fun s => ⟨_, .single (does s), hP _⟩

theorem get {key : String}
    {P : Except BackendError (Option Entry) → List (HostCall V E L) → Prop}
    (hP : ∀ answer, P answer [.get key answer]) :
    Makes h (h.get key) P :=
  of_does (.get key) hP

theorem set {key : String} {v : Json} {ttl : Duration}
    {P : Except BackendError Unit → List (HostCall V E L) → Prop}
    (hP : ∀ answer, P answer [.set key v ttl answer]) :
    Makes h (h.set key v ttl) P :=
  of_does (.set key v ttl) hP

theorem setError {key : String} {e : CachedError} {ttl : Duration}
    {P : Except BackendError Bool → List (HostCall V E L) → Prop}
    (hP : ∀ answer, P answer [.setError key e ttl answer]) :
    Makes h (h.setError key e ttl) P :=
  of_does (.setError key e ttl) hP

theorem delete {keys : List String}
    {P : Except BackendError Unit → List (HostCall V E L) → Prop}
    (hP : ∀ answer, P answer [.delete keys answer]) :
    Makes h (h.delete keys) P :=
  of_does (.delete keys) hP

theorem lock {lock : String → StateM S Bool} (hl : h.lock? = some lock)
    {key : String} {P : Bool → List (HostCall V E L) → Prop}
    (hP : ∀ granted, P granted [.lock key granted]) :
    Makes h (lock key) P :=
  of_does (.lock hl key) hP

theorem release {key : String} {P : Unit → List (HostCall V E L) → Prop}
    (hP : P () [.release key]) : Makes h (h.release key) P :=
  of_does (c := fun _ => .release key) (.release key) fun _ => hP

theorem submit {submit : Refresh V E L → StateM S Unit}
    (hs : h.submit? = some submit) {r : Refresh V E L}
    {P : Unit → List (HostCall V E L) → Prop} (hP : P () [.submit r]) :
    Makes h (submit r) P :=
  of_does (c := fun _ => .submit r) (.submit hs r) fun _ => hP

theorem load {loader : L}
    {P : Except Crash (Except E V) → List (HostCall V E L) → Prop}
    (hP : ∀ answer, P answer [.load loader answer]) :
    Makes h (h.load loader).settled P :=
  of_does (.load loader) hP

theorem draw {P : Nat → List (HostCall V E L) → Prop}
    (hP : ∀ word, P word [.draw word]) : Makes h h.draw P :=
  of_does .draw hP

/-- A report makes no call. -/
theorem report {e : Event} {P : Unit → List (HostCall V E L) → Prop}
    (hP : P () []) : Makes h (h.report e) P :=
  fun s => ⟨[], .quiet (.report e s) (.nil _), hP⟩

/-- Steps after a report. -/
theorem afterReport {e : Event} {k : Unit → StateM S β}
    {Q : β → List (HostCall V E L) → Prop} (hk : Makes h (k ()) Q) :
    Makes h (h.report e >>= k) Q := by
  refine Makes.bind (P := fun _ calls => calls = []) (Makes.report rfl) ?_
  intro _ calls hcalls
  subst hcalls
  exact hk

/-! ### Steps that may crash -/

/-- Steps that may crash, after steps that may crash. -/
theorem actBind {act : Act S α} {k : α → Act S β}
    {P : Except Crash α → List (HostCall V E L) → Prop}
    {Q : Except Crash β → List (HostCall V E L) → Prop}
    (hact : Makes h act.settled P)
    (hcrash : ∀ c calls, P (.error c) calls → Q (.error c) calls)
    (hk : ∀ a calls, P (.ok a) calls →
      Makes h (k a).settled fun b more => Q b (calls ++ more)) :
    Makes h (act >>= k).settled Q := by
  refine Makes.bind (m := act.settled) (k := ExceptT.bindCont k) hact ?_
  intro outcome calls hP
  cases outcome with
  | error c =>
    refine Makes.pure ?_
    rw [List.append_nil]
    exact hcrash c calls hP
  | ok a => exact hk a calls hP

/-- Steps that may crash, after steps that never do. -/
theorem safeBind {m : StateM S α} {k : α → Act S β}
    {P : α → List (HostCall V E L) → Prop}
    {Q : Except Crash β → List (HostCall V E L) → Prop} (hm : Makes h m P)
    (hk : ∀ a calls, P a calls →
      Makes h (k a).settled fun b more => Q b (calls ++ more)) :
    Makes h (Act.settled (ExceptT.lift m >>= k)) Q :=
  Makes.bind (k := fun a => (k a).settled) hm hk

/-- Steps that may crash, with a last one that follows them anyway. -/
theorem thenAlways {act : Act S α} {last : StateM S Unit}
    {P : Except Crash α → List (HostCall V E L) → Prop}
    {Q : Except Crash α → List (HostCall V E L) → Prop}
    (hact : Makes h act.settled P)
    (hlast : ∀ outcome calls, P outcome calls →
      Makes h last fun _ more => Q outcome (calls ++ more)) :
    Makes h (act.thenAlways last).settled Q := by
  refine Makes.bind hact ?_
  intro outcome calls hP
  refine Makes.bind (hlast outcome calls hP) ?_
  intro _ more hQ
  refine Makes.pure ?_
  rw [List.append_nil]
  exact hQ

end Makes

/-! ## Hosts that write down their calls -/

/-- A state with what was written down so far. -/
structure Traced (S C : Type) where
  state : S
  notes : List C

namespace Traced

variable {C α : Type}

/-- Steps on the state alone. -/
def quietly (m : StateM S α) : StateM (Traced S C) α := fun t =>
  let (a, state) := m t.state
  (a, { t with state })

/-- Steps on the state that are then written down. -/
def noting (note : α → C) (m : StateM S α) : StateM (Traced S C) α :=
  fun t =>
    let (a, state) := m t.state
    (a, ⟨state, t.notes ++ [note a]⟩)

end Traced

/-- A host that does what another one does and writes down its calls. -/
def Host.traced {C : Type} (h : Host S V E L) (note : HostCall V E L → C) :
    Host (Traced S C) V E L where
  get key := Traced.noting (fun a => note (.get key a)) (h.get key)
  set key v ttl :=
    Traced.noting (fun a => note (.set key v ttl a)) (h.set key v ttl)
  setError key e ttl :=
    Traced.noting (fun a => note (.setError key e ttl a))
      (h.setError key e ttl)
  delete keys :=
    Traced.noting (fun a => note (.delete keys a)) (h.delete keys)
  lock? := h.lock?.map fun lock key =>
    Traced.noting (fun granted => note (.lock key granted)) (lock key)
  release key :=
    Traced.noting (fun _ => note (.release key)) (h.release key)
  submit? := h.submit?.map fun submit r =>
    Traced.noting (fun _ => note (.submit r)) (submit r)
  load loader := ExceptT.mk
    (Traced.noting (fun a => note (.load loader a))
      (h.load loader).settled)
  pauses := h.pauses
  draw := Traced.noting (fun word => note (.draw word)) h.draw
  report e := Traced.quietly (h.report e)

namespace Host

variable {C : Type} {h : Host S V E L} {note : HostCall V E L → C}

@[simp] theorem isSome_traced_lock? :
    (h.traced note).lock?.isSome = h.lock?.isSome := by
  simp [traced]

@[simp] theorem isSome_traced_submit? :
    (h.traced note).submit?.isSome = h.submit?.isSome := by
  simp [traced]

/-- An operation is written down if it makes a call, and does to the
state what it does anyway. -/
theorem Does.of_traced {s t : Traced S C} {c : Option (HostCall V E L)}
    (does : (h.traced note).Does s c t) :
    h.Does s.state c t.state
      ∧ t.notes = s.notes ++ c.toList.map note := by
  cases does with
  | get key => exact ⟨.get key s.state, rfl⟩
  | set key v ttl => exact ⟨.set key v ttl s.state, rfl⟩
  | setError key e ttl => exact ⟨.setError key e ttl s.state, rfl⟩
  | delete keys => exact ⟨.delete keys s.state, rfl⟩
  | lock hl key =>
    obtain ⟨lock, hlock, rfl⟩ := Option.map_eq_some_iff.1 hl
    exact ⟨.lock hlock key s.state, rfl⟩
  | release key => exact ⟨.release key s.state, rfl⟩
  | submit hs r =>
    obtain ⟨submit, hsubmit, rfl⟩ := Option.map_eq_some_iff.1 hs
    exact ⟨.submit hsubmit r s.state, rfl⟩
  | load loader => exact ⟨.load loader s.state, rfl⟩
  | draw => exact ⟨.draw s.state, rfl⟩
  | report e => exact ⟨.report e s.state, (List.append_nil _).symm⟩

/-- What is written down along a path are its calls, and the path is one
of the host that does the work. -/
theorem Trail.of_traced {s t : Traced S C} {calls : List (HostCall V E L)}
    (path : (h.traced note).Trail s calls t) :
    h.Trail s.state calls t.state
      ∧ t.notes = s.notes ++ calls.map note := by
  induction path with
  | nil s => exact ⟨.nil s.state, (List.append_nil _).symm⟩
  | call first _ ih =>
    obtain ⟨does, hfirst⟩ := Does.of_traced first
    refine ⟨.call does ih.1, ?_⟩
    rw [ih.2, hfirst, List.append_assoc]
    rfl
  | quiet first _ ih =>
    obtain ⟨does, hfirst⟩ := Does.of_traced first
    refine ⟨.quiet does ih.1, ?_⟩
    rw [ih.2, hfirst, List.append_assoc]
    rfl

end Host

/-- What steps write down on a tracing host are the calls that they make
on the host that does the work. -/
theorem Makes.notes {α : Type} {h : Host S V E L}
    {m : StateM (Traced S (HostCall V E L)) α}
    {P : α → List (HostCall V E L) → Prop}
    (hm : Makes (h.traced id) m P) (s : S) :
    P (m ⟨s, []⟩).1 (m ⟨s, []⟩).2.notes
      ∧ h.Trail s (m ⟨s, []⟩).2.notes (m ⟨s, []⟩).2.state := by
  obtain ⟨calls, path, hP⟩ := hm ⟨s, []⟩
  obtain ⟨path', hnotes⟩ := path.of_traced
  rw [List.map_id, List.nil_append] at hnotes
  rw [hnotes]
  exact ⟨hP, path'⟩

end PolicyWeave
