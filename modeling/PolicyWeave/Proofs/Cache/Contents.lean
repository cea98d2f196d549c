import Mathlib.Logic.Function.Basic
import PolicyWeave.Cache.World
import PolicyWeave.Proofs.Cache.Eviction
import PolicyWeave.Proofs.Cache.Guards
import PolicyWeave.Proofs.Cache.Transparency

/-!
# The contents of a cache

What the calls of a layer do to the cache behind its host, where calls
that fail change nothing.

There are three groups.

* `Contents` is what a cache holds under each key.  `HostCall.writes` is
  what a call makes of it: one entry is put, some keys are removed, or
  all stays as it is.
* `Host.Backed` are the hosts whose calls do just that, and nothing else
  but a loader touches the contents.  `of_trail` says it of a path, and
  `spared` of one key of a path.
* `Wiring.backed`: the layers over a world are such hosts, if their locker
  stores nothing.
-/

namespace PolicyWeave

variable {S V E L : Type}

/-! ## What calls write -/

/-- What a cache holds under each key. -/
abbrev Contents : Type := String → Option Entry

namespace HostCall

/-- The entry that a call has put under a key. -/
def entered? : HostCall V E L → Option (String × Entry)
  | .set key v ttl (.ok _) => some (key, .fresh (.value v) ttl)
  | .setError key e ttl (.ok true) => some (key, .fresh (.failure e) ttl)
  | _ => none

/-- The keys that a call has removed: its whole batch, or those of its
batch that were not reported. -/
def removed : HostCall V E L → List String
  | .delete keys (.ok _) => keys
  | .delete keys (.error (.partialDelete _ _ failed)) =>
    keys.filter (· ∉ failed)
  | _ => []

/-- What a cache holds after a call. -/
def writes (c : HostCall V E L) (contents : Contents) : Contents :=
  match c.entered? with
  | some (key, entry) => Function.update contents key (some entry)
  | none => fun key => if key ∈ c.removed then none else contents key

/-- Whether a call neither puts an entry under a key nor removes it. -/
def Spares (key : String) (c : HostCall V E L) : Prop :=
  (∀ payload, c.stored? ≠ some (key, payload)) ∧ key ∉ c.removed

variable {c : HostCall V E L} {key : String} {contents : Contents}

/-- The payload that a call has stored is the one of its entry. -/
theorem stored?_eq :
    c.stored? = c.entered?.map fun put => (put.1, put.2.payload) := by
  cases c with
  | set key v ttl answer => cases answer <;> rfl
  | setError key e ttl answer => rcases answer with _ | _ | _ <;> rfl
  | _ => rfl

/-- A call that a loader answered is a call to that loader. -/
theorem eq_load_of_loaded? {answer : Except Crash (Except E V)}
    (hc : c.loaded? = some answer) : ∃ loader, c = .load loader answer := by
  cases c with
  | load loader other =>
    cases hc
    exact ⟨loader, rfl⟩
  | _ => cases hc

theorem writes_of_entered? {entry : Entry}
    (he : c.entered? = some (key, entry)) :
    c.writes contents = Function.update contents key (some entry) := by
  rw [writes, he]

/-- A call that neither puts nor removes anything. -/
theorem writes_of_idle (he : c.entered? = none) (hr : c.removed = []) :
    c.writes contents = contents := by
  rw [writes, he, hr]
  funext key
  exact if_neg List.not_mem_nil

/-- A call that spares a key leaves its entry alone. -/
theorem Spares.writes_eq (hc : c.Spares key) :
    c.writes contents key = contents key := by
  obtain ⟨hstored, hremoved⟩ := hc
  rw [writes]
  cases he : c.entered? with
  | none => exact if_neg hremoved
  | some put =>
    refine Function.update_of_ne ?_ _ _
    rintro rfl
    refine hstored put.2.payload ?_
    rw [stored?_eq, he]
    rfl

/-- A call that stores a payload puts it under its key. -/
theorem writes_of_stored? {payload : Payload}
    (hs : c.stored? = some (key, payload)) (contents : Contents) :
    ∃ entry, c.writes contents key = some entry
      ∧ entry.payload = payload := by
  rw [stored?_eq] at hs
  obtain ⟨⟨other, entry⟩, he, hput⟩ := Option.map_eq_some_iff.1 hs
  cases hput
  refine ⟨entry, ?_, rfl⟩
  rw [writes_of_entered? he]
  exact Function.update_self ..

end HostCall

/-- What a cache holds after some calls. -/
def writesOf (calls : List (HostCall V E L)) (contents : Contents) :
    Contents :=
  calls.foldl (fun contents c => c.writes contents) contents

theorem writesOf_cons (c : HostCall V E L) (calls : List (HostCall V E L))
    (contents : Contents) :
    writesOf (c :: calls) contents = writesOf calls (c.writes contents) :=
  rfl

theorem writesOf_append (calls more : List (HostCall V E L))
    (contents : Contents) :
    writesOf (calls ++ more) contents
      = writesOf more (writesOf calls contents) :=
  List.foldl_append ..

/-- Calls that neither put nor remove anything. -/
theorem writesOf_of_idle {calls : List (HostCall V E L)}
    {contents : Contents}
    (hc : ∀ c ∈ calls, c.entered? = none ∧ c.removed = []) :
    writesOf calls contents = contents := by
  induction calls with
  | nil => rfl
  | cons c rest ih =>
    obtain ⟨⟨he, hr⟩, hrest⟩ := List.forall_mem_cons.1 hc
    rw [writesOf_cons, HostCall.writes_of_idle he hr]
    exact ih hrest

/-- Calls that spare a key leave its entry alone. -/
theorem writesOf_spared {key : String} :
    ∀ {calls : List (HostCall V E L)} {contents : Contents},
      (∀ c ∈ calls, c.Spares key) →
      writesOf calls contents key = contents key := by
  intro calls
  induction calls with
  | nil => exact fun _ => rfl
  | cons c rest ih =>
    intro contents hall
    have hsplit := List.forall_mem_cons.1 hall
    exact (ih hsplit.2).trans hsplit.1.writes_eq

/-! ## Hosts with a cache behind them -/

/-- Hosts whose loaders leave the contents alone. -/
def Host.Apart (content : S → Contents) (h : Host S V E L) : Prop :=
  ∀ loader s, content ((h.load loader).settled s).2 = content s

/-- Hosts with a cache behind them.  A look-up that does not fail reads
what the cache holds, and every call but one to a loader changes what is
held as its answer says.  So a call that fails changes nothing. -/
structure Host.Backed (content : S → Contents) (h : Host S V E L) :
    Prop where
  reads : ∀ {s t : S} {key : String} {found : Option Entry},
    h.Does s (some (.get key (.ok found))) t → found = content s key
  writes : ∀ {s t : S} {c : HostCall V E L}, h.Does s (some c) t →
    c.loaded? = none → content t = c.writes (content s)
  quiet : ∀ {s t : S}, h.Does s none t → content t = content s

namespace Host

variable {content : S → Contents} {h : Host S V E L} {s t : S}

/-- A call to a loader, from its answer. -/
theorem Does.of_load {loader : L} {answer : Except Crash (Except E V)}
    (does : h.Does s (some (.load loader answer)) t) :
    (h.load loader).settled s = (answer, t) := by
  generalize hcall : some (HostCall.load loader answer) = call at does
  cases does <;> cases hcall
  rfl

/-- A look-up, from its answer. -/
theorem Does.of_get {key : String}
    {answer : Except BackendError (Option Entry)}
    (does : h.Does s (some (.get key answer)) t) :
    h.get key s = (answer, t) := by
  generalize hcall : some (HostCall.get key answer) = call at does
  cases does <;> cases hcall
  rfl

/-- Loaders that leave the contents alone write what their calls say. -/
theorem Backed.writes_of_apart (hb : h.Backed content)
    (ha : h.Apart content) {c : HostCall V E L}
    (does : h.Does s (some c) t) : content t = c.writes (content s) := by
  cases hc : c.loaded? with
  | none => exact hb.writes does hc
  | some answer =>
    obtain ⟨loader, rfl⟩ := HostCall.eq_load_of_loaded? hc
    have hsame := ha loader s
    rw [does.of_load] at hsame
    exact hsame.trans (HostCall.writes_of_idle rfl rfl).symm

/-- The contents at the end of a path are what its calls have written,
if it calls no loader or the loaders leave the contents alone. -/
theorem Backed.of_trail (hb : h.Backed content)
    {calls : List (HostCall V E L)} (path : h.Trail s calls t)
    (hl : loads calls = [] ∨ h.Apart content) :
    content t = writesOf calls (content s) := by
  induction path with
  | nil s => rfl
  | @call s t u c calls does _ ih =>
    have hrest : loads calls = [] ∨ h.Apart content := by
      refine hl.imp_left fun hnone => ?_
      exact (List.append_eq_nil_iff.1
        ((loads_append [c] calls).symm.trans hnone)).2
    have hfirst : content t = c.writes (content s) := by
      rcases hl with hnone | ha
      · refine hb.writes does ?_
        exact List.filterMap_eq_nil_iff.1 hnone c List.mem_cons_self
      · exact hb.writes_of_apart ha does
    rw [ih hrest, hfirst]
    rfl
  | quiet does _ ih => rw [ih hl, hb.quiet does]

/-- A path whose calls spare a key leaves its entry alone. -/
theorem Backed.spared (hb : h.Backed content) (ha : h.Apart content)
    {calls : List (HostCall V E L)} (path : h.Trail s calls t)
    {key : String} (hc : ∀ c ∈ calls, c.Spares key) :
    content t key = content s key := by
  rw [hb.of_trail path (.inr ha)]
  exact writesOf_spared hc

end Host

/-! ## Worlds -/

/-- What the store of a world holds. -/
def World.contents {X : Type} (w : World V E L X) : Contents :=
  w.store.entry?

namespace Store

/-- A store with an entry put under a key. -/
theorem entry?_put (s : Store) (key : String) (e : Entry) :
    entry? (s.put key e) = Function.update s.entry? key (some e) := by
  funext other
  by_cases hne : other = key
  · subst hne
    rw [Function.update_self]
    exact Table.get?_insert_self ..
  · rw [Function.update_of_ne hne]
    exact Table.get?_insert_of_ne hne ..

/-- What is left of a batch of keys is what cannot be deleted. -/
theorem get?_eraseAll (undeletable : List String) (key : String) :
    ∀ (keys : List String) (entries : List (String × Entry)),
      Table.get? key (eraseAll undeletable keys entries)
        = if key ∈ keys ∧ key ∉ undeletable then none
          else Table.get? key entries := by
  intro keys
  induction keys with
  | nil => simp [eraseAll]
  | cons k rest ih =>
    intro entries
    have hstep : eraseAll undeletable (k :: rest) entries
        = eraseAll undeletable rest
          (if k ∈ undeletable then entries else Table.erase k entries) :=
      rfl
    rw [hstep, ih]
    by_cases hk : key = k
    · subst hk
      by_cases hu : key ∈ undeletable <;> simp [hu]
    · have herase : Table.get? key (Table.erase k entries)
          = Table.get? key entries := Table.get?_erase_of_ne hk entries
      by_cases hu : k ∈ undeletable <;> simp [hk, hu, herase]

end Store

namespace World

variable {X : Type} {c : Wiring}
  {load : L → Act (World V E L X) (Except E V)} {pauses : L → Nat}

/-- Storing a value puts its entry, or fails and changes nothing. -/
theorem contents_set (w : World V E L X) (key : String) (v : Json)
    (ttl : Duration) :
    (onStore (Store.set key v ttl) w).2.contents
      = (HostCall.set (V := V) (E := E) (L := L) key v ttl
          (onStore (Store.set key v ttl) w).1).writes w.contents := by
  unfold onStore Store.set
  dsimp only
  split
  · exact (HostCall.writes_of_idle rfl rfl).symm
  · exact Store.entry?_put ..

theorem contents_setError (w : World V E L X) (key : String)
    (e : CachedError) (ttl : Duration) :
    (onStore (Store.setError key e ttl) w).2.contents
      = (HostCall.setError (V := V) (E := E) (L := L) key e ttl
          (onStore (Store.setError key e ttl) w).1).writes w.contents := by
  unfold onStore Store.setError
  dsimp only
  split
  · exact (HostCall.writes_of_idle rfl rfl).symm
  · split
    · exact (HostCall.writes_of_idle rfl rfl).symm
    · exact Store.entry?_put ..

/-- Deleting removes the keys that can be deleted, and reports the
others. -/
theorem contents_delete (w : World V E L X) (keys : List String) :
    (onStore (Store.delete keys) w).2.contents
      = (HostCall.delete (V := V) (E := E) (L := L) keys
          (onStore (Store.delete keys) w).1).writes w.contents := by
  unfold onStore Store.delete
  dsimp only
  split
  · exact (HostCall.writes_of_idle rfl rfl).symm
  · have hleft : ∀ key, Table.get? key (Store.eraseAll
        w.store.faults.undeletable keys w.store.entries)
          = if key ∈ keys ∧ key ∉ w.store.faults.undeletable then none
            else w.contents key := fun key =>
      Store.get?_eraseAll _ key keys _
    split
    · rename_i hempty
      have hnone := List.isEmpty_iff.1 hempty
      funext key
      refine (hleft key).trans (if_congr ?_ rfl rfl)
      refine and_iff_left_of_imp ?_
      intro hkey hu
      exact List.filter_eq_nil_iff.1 hnone key hkey (decide_eq_true hu)
    · funext key
      refine (hleft key).trans (if_congr ?_ rfl rfl)
      simp only [HostCall.removed, List.mem_filter, decide_eq_true_eq]
      tauto

end World

/-- The layers over a world have its store behind them, if their locker
stores nothing. -/
theorem Wiring.backed {X : Type} (c : Wiring) (hplain : c.locker.Plain)
    (load : L → Act (World V E L X) (Except E V)) (pauses : L → Nat) :
    (c.host load pauses).Backed World.contents where
  reads := by
    intro s t key found does
    have hget : (Store.get key s.store).1 = .ok found :=
      congrArg Prod.fst does.of_get
    unfold Store.get at hget
    dsimp only at hget
    split at hget
    · cases hget
    · exact (Except.ok.inj hget).symm
  writes := by
    intro s t call does hload
    have hidle {u : World V E L X} (hstore : u.store = s.store)
        (he : call.entered? = none) (hr : call.removed = []) :
        u.contents = call.writes s.contents := by
      rw [HostCall.writes_of_idle he hr, World.contents, hstore]
      rfl
    cases does with
    | get key =>
      refine Eq.trans ?_ (HostCall.writes_of_idle rfl rfl).symm
      show Store.entry? (Store.get key s.store).2 = s.store.entry?
      unfold Store.get
      dsimp only
      split <;> rfl
    | set key v ttl => exact World.contents_set s key v ttl
    | setError key e ttl => exact World.contents_setError s key e ttl
    | delete keys => exact World.contents_delete s keys
    | lock hl key =>
      refine hidle ?_ rfl rfl
      obtain ⟨locker, executor⟩ := c
      cases locker with
      | none => cases hl
      | table =>
        cases hl
        rfl
      | populating v => cases hplain
    | release key => exact hidle rfl rfl rfl
    | submit hs r =>
      refine hidle ?_ rfl rfl
      simp only [Wiring.host] at hs
      split at hs
      · cases hs
      · cases hs
        rfl
    | load loader => cases hload
    | draw =>
      refine hidle ?_ rfl rfl
      show (World.draw s).2.store = s.store
      unfold World.draw
      split <;> rfl
  quiet := by
    intro s t does
    cases does with
    | report e => rfl

end PolicyWeave
