import PolicyWeave.Cache.World
import PolicyWeave.Proofs.Cache.Calls
import PolicyWeave.Proofs.Cache.Coupling

/-!
# Two runs side by side

What a fetch answers and calls does not depend on whether refreshes are
handed on.

There are five groups.

* `Matched` says of two runs of steps that they answer the same and keep
  their states alike: they are `Paired`, with one kind of state.
* `Host.Alike` are the hosts whose operations are matched with themselves.
* `Host.Unseen` are the hosts on which handing on and reporting cannot be
  seen.  Such a host is coupled with itself without its executor, and so a
  fetch is matched with the same fetch there.
* `Layer.fetch_unhanded` says it of the calls of both.
* `Wiring.unseen`: the layers over a world are such hosts, if their
  loaders look at neither the queue nor the log.
-/

namespace PolicyWeave

variable {S V E L : Type}

/-! ## Matched steps -/

/-- Steps that answer the same and keep two states alike. -/
def Matched {α : Type} (R : S → S → Prop) (m m' : StateM S α) : Prop :=
  ∀ s s', R s s' → (m s).1 = (m' s').1 ∧ R (m s).2 (m' s').2

namespace Matched

variable {R : S → S → Prop} {α β : Type}

theorem pure (a : α) : Matched R (Pure.pure a) (Pure.pure a) :=
  Paired.pure rfl

/-- Steps after steps are matched if both are. -/
theorem bind {m m' : StateM S α} {k j : α → StateM S β}
    (hm : Matched R m m') (hk : ∀ a, Matched R (k a) (j a)) :
    Matched R (m >>= k) (m' >>= j) :=
  Paired.bindEq hm hk

end Matched

/-! ## Hosts whose operations are matched -/

/-- Hosts whose operations answer the same in states that are alike, and
keep them alike. -/
structure Host.Alike (R : S → S → Prop) (h : Host S V E L) : Prop where
  get : ∀ key, Matched R (h.get key) (h.get key)
  set : ∀ key v ttl, Matched R (h.set key v ttl) (h.set key v ttl)
  setError : ∀ key e ttl,
    Matched R (h.setError key e ttl) (h.setError key e ttl)
  delete : ∀ keys, Matched R (h.delete keys) (h.delete keys)
  lock : ∀ lock ∈ h.lock?, ∀ key, Matched R (lock key) (lock key)
  release : ∀ key, Matched R (h.release key) (h.release key)
  load : ∀ loader,
    Matched R (h.load loader).settled (h.load loader).settled
  draw : Matched R h.draw h.draw
  report : ∀ e, Matched R (h.report e) (h.report e)

/-! ## Without an executor -/

/-- The host without its executor. -/
def Host.unhanded (h : Host S V E L) : Host S V E L :=
  { h with submit? := none }

/-- Hosts on which it cannot be seen that a refresh was handed on or that
something was reported. -/
structure Host.Unseen (R : S → S → Prop) (h : Host S V E L) : Prop extends
    h.Alike R where
  submit : ∀ submit ∈ h.submit?, ∀ r s s', R s s' → R (submit r s).2 s'
  reported : ∀ e s s', R s s' → R (h.report e s).2 s'

namespace Layer

variable {R : S → S → Prop} {h : Host S V E L} (hu : h.Unseen R)

include hu

/-- Handing a refresh on is matched with doing nothing. -/
theorem matched_offerRefresh (f : Fetch V E L) (entry : Entry) :
    Matched R (offerRefresh h f entry)
      (offerRefresh h.unhanded f entry) := by
  show Matched R (offerRefresh h f entry) (Pure.pure ())
  unfold offerRefresh
  cases hs : h.submit? with
  | none => exact .pure _
  | some submit =>
    dsimp only
    split
    · intro s s' hss
      exact ⟨rfl, hu.submit submit hs _ _ _ (hu.reported _ _ _ hss)⟩
    · exact .pure _

end Layer

/-- Such a host is coupled with itself without its executor. -/
theorem Host.Unseen.coupled {R : S → S → Prop} {h : Host S V E L}
    (hu : h.Unseen R) : Host.Coupled R Eq h h.unhanded where
  get := hu.get
  set := hu.set
  setError := hu.setError
  delete := hu.delete
  lock := by
    have hlock := hu.lock
    show Option.Rel _ h.lock? h.lock?
    cases hl : h.lock? with
    | none => exact .none
    | some lock => exact .some (hlock lock hl)
  release := hu.release
  offer := by
    rintro f _ entry rfl
    exact Layer.matched_offerRefresh hu f entry
  load := by
    rintro loader _ rfl
    exact hu.load loader
  pauses := by
    rintro loader _ rfl
    rfl
  draw := hu.draw
  report := hu.report

/-- A fetch is matched with the same fetch without an executor. -/
theorem Layer.matched_fetch {R : S → S → Prop} {h : Host S V E L}
    (hu : h.Unseen R) (f : Fetch V E L) :
    Matched R (fetch h f).settled (fetch h.unhanded f).settled :=
  paired_fetch hu.coupled f rfl

/-! ## The calls of both -/

/-- Whether a call hands a refresh on. -/
def HostCall.isSubmit : HostCall V E L → Bool
  | .submit _ => true
  | _ => false

/-- The calls without those that hand a refresh on. -/
def unsubmitted (calls : List (HostCall V E L)) : List (HostCall V E L) :=
  calls.filter fun c => !c.isSubmit

/-- States that are alike, with the calls of the second one being those of
the first one that hand nothing on. -/
def Traced.Alike (R : S → S → Prop)
    (t t' : Traced S (HostCall V E L)) : Prop :=
  R t.state t'.state ∧ t'.notes = unsubmitted t.notes

theorem unsubmitted_append (calls more : List (HostCall V E L)) :
    unsubmitted (calls ++ more) = unsubmitted calls ++ unsubmitted more :=
  List.filter_append ..

/-- Matched steps that make a call other than to hand on are matched when
they are written down. -/
theorem Matched.noting {R : S → S → Prop} {α : Type} {m : StateM S α}
    {note : α → HostCall V E L} (hm : Matched R m m)
    (hnote : ∀ a, (note a).isSubmit = false) :
    Matched (Traced.Alike R) (Traced.noting note m)
      (Traced.noting note m) := by
  intro t t' ht
  obtain ⟨hanswer, hstates⟩ := hm t.state t'.state ht.1
  refine ⟨hanswer, hstates, ?_⟩
  show t'.notes ++ [note (m t'.state).1]
    = unsubmitted (t.notes ++ [note (m t.state).1])
  rw [unsubmitted_append, ← ht.2, ← hanswer, unsubmitted,
    List.filter_cons_of_pos (by rw [hnote]; rfl), List.filter_nil]

/-- Matched steps that make no call. -/
theorem Matched.quietly {R : S → S → Prop} {α : Type} {m : StateM S α}
    (hm : Matched R m m) :
    Matched (Traced.Alike (V := V) (E := E) (L := L) R)
      (Traced.quietly m) (Traced.quietly m) := by
  intro t t' ht
  obtain ⟨hanswer, hstates⟩ := hm t.state t'.state ht.1
  exact ⟨hanswer, hstates, ht.2⟩

/-- What cannot be seen on a host cannot be seen in its calls either, but
for the calls that hand on. -/
theorem Host.Unseen.traced {R : S → S → Prop} {h : Host S V E L}
    (hu : h.Unseen R) : (h.traced id).Unseen (Traced.Alike R) where
  get key := (hu.get key).noting fun _ => rfl
  set key v ttl := (hu.set key v ttl).noting fun _ => rfl
  setError key e ttl := (hu.setError key e ttl).noting fun _ => rfl
  delete keys := (hu.delete keys).noting fun _ => rfl
  lock := by
    intro lock hlock key
    obtain ⟨lock, hl, rfl⟩ := Option.map_eq_some_iff.1 hlock
    exact (hu.lock lock hl key).noting fun _ => rfl
  release key := (hu.release key).noting fun _ => rfl
  load loader := (hu.load loader).noting fun _ => rfl
  draw := hu.draw.noting fun _ => rfl
  report e := (hu.report e).quietly
  submit := by
    intro submit hsubmit r t t' ht
    obtain ⟨submit, hs, rfl⟩ := Option.map_eq_some_iff.1 hsubmit
    refine ⟨hu.submit submit hs r _ _ ht.1, ?_⟩
    show t'.notes = unsubmitted (t.notes ++ [.submit r])
    rw [unsubmitted_append, ← ht.2]
    exact (List.append_nil _).symm
  reported := by
    intro e t t' ht
    exact ⟨hu.reported e _ _ ht.1, ht.2⟩

/-- With an executor or without, a fetch comes to the same outcome.  It
makes the same calls with the same answers, but for those that hand a
refresh on. -/
theorem Layer.fetch_unhanded {R : S → S → Prop} {h : Host S V E L}
    (hu : h.Unseen R) (f : Fetch V E L) {s s' : S} (hs : R s s') :
    let run := (fetch (h.traced id) f).settled ⟨s, []⟩
    let bare := (fetch (h.unhanded.traced id) f).settled ⟨s', []⟩
    run.1 = bare.1 ∧ R run.2.state bare.2.state
      ∧ bare.2.notes = unsubmitted run.2.notes :=
  matched_fetch hu.traced f ⟨s, []⟩ ⟨s', []⟩ ⟨hs, rfl⟩

/-! ## Worlds -/

/-- Worlds that differ in what was handed on and in what was reported. -/
structure World.Alike {X : Type} (w w' : World V E L X) : Prop where
  store : w.store = w'.store
  locks : w.locks = w'.locks
  words : w.words = w'.words
  base : w.base = w'.base

namespace World

variable {X α : Type}

theorem matched_onStore (g : Store → α × Store) :
    Matched (Alike (V := V) (E := E) (L := L) (X := X)) (onStore g)
      (onStore g) := by
  intro w w' hw
  show (g w.store).1 = (g w'.store).1 ∧ Alike _ _
  rw [hw.store]
  exact ⟨rfl, congrArg (fun s => (g s).2) hw.store, hw.locks, hw.words,
    hw.base⟩

theorem matched_onLocks (g : LockTable → α × LockTable) :
    Matched (Alike (V := V) (E := E) (L := L) (X := X)) (onLocks g)
      (onLocks g) := by
  intro w w' hw
  show (g w.locks).1 = (g w'.locks).1 ∧ Alike _ _
  rw [hw.locks]
  exact ⟨rfl, hw.store, congrArg (fun t => (g t).2) hw.locks, hw.words,
    hw.base⟩

theorem matched_draw :
    Matched (Alike (V := V) (E := E) (L := L) (X := X)) draw draw := by
  intro w w' hw
  unfold draw
  rw [hw.words]
  cases hwords : w'.words with
  | nil => exact ⟨rfl, hw⟩
  | cons word rest => exact ⟨rfl, hw.store, hw.locks, rfl, hw.base⟩

end World

/-- The layers over a world hand on unseen, if their loaders look at
neither the queue nor the log. -/
theorem Wiring.unseen {X : Type} (c : Wiring)
    (load : L → Act (World V E L X) (Except E V)) (pauses : L → Nat)
    (hload : ∀ loader,
      Matched World.Alike (load loader).settled (load loader).settled) :
    (c.host load pauses).Unseen World.Alike where
  get _ := World.matched_onStore _
  set _ _ _ := World.matched_onStore _
  setError _ _ _ := World.matched_onStore _
  delete _ := World.matched_onStore _
  lock := by
    intro lock hlock key
    obtain ⟨locker, executor⟩ := c
    cases locker with
    | none => cases hlock
    | table =>
      cases hlock
      exact World.matched_onLocks _
    | populating value =>
      cases hlock
      refine (World.matched_onStore _).bind ?_
      intro answer
      cases answer with
      | error e => exact .pure _
      | ok _ => exact World.matched_onLocks _
  release _ := World.matched_onLocks _
  load := hload
  draw := World.matched_draw
  report _ := fun _ _ hw =>
    ⟨rfl, hw.store, hw.locks, hw.words, hw.base⟩
  submit := by
    intro submit hsubmit r w w' hw
    have heq : submit = World.submit := by
      simp only [Wiring.host] at hsubmit
      split at hsubmit
      · cases hsubmit
      · exact (Option.some.inj hsubmit).symm
    rw [heq]
    exact ⟨hw.store, hw.locks, hw.words, hw.base⟩
  reported _ := fun _ _ hw => ⟨hw.store, hw.locks, hw.words, hw.base⟩

end PolicyWeave
