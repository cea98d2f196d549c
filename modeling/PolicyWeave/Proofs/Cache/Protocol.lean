import PolicyWeave.Proofs.Cache.Calls

/-!
# The protocol of a call

Which calls a fetch makes on its host, in which order, and what it then
answers.

There are three groups.

* What a look-up finds and what is to be recorded about a result, as
  functions of a codec.
* The phases: `Written`, `Recorded` and `Loaded` are the calls of the
  last ones, and one lemma for each phase says which calls it makes.
* `Exchange` is the whole conversation of a fetch with its host, and
  `found_or_loaded` says where its answer comes from.  `makes_populate`
  is the result: every fetch has one, whatever the host answers.
-/

namespace PolicyWeave

variable {S V E L : Type}

/-! ## Results in the cache -/

namespace Codec

/-- The result that a payload stands for, if it reads back. -/
def outcome? (codec : Codec V E) : Payload → Option (Except E V)
  | .failure e => some (.error (codec.ofCached e))
  | .value v => (codec.decode? v).map .ok

/-- The result that the answer to a look-up stands for. -/
def found? (codec : Codec V E) :
    Except BackendError (Option Entry) → Option (Except E V)
  | .ok (some entry) => codec.outcome? entry.payload
  | .ok none => none
  | .error _ => none

/-- What is to be recorded about a result. -/
def writeBack (codec : Codec V E) : Except E V → WriteBack
  | .ok value =>
    match codec.encode value with
    | .ok v => .value v
    | .error _ => .skip
  | .error e =>
    match codec.toCached? e with
    | some cached => .failure cached
    | none => .skip

end Codec

/-- The refreshes that the answer to a first look-up hands on. -/
def Fetch.offers (f : Fetch V E L) (h : Host S V E L) :
    Except BackendError (Option Entry) → List (HostCall V E L)
  | .ok (some entry) =>
    if h.submit?.isSome && f.settings.shouldRefresh entry then
      [.submit ⟨f.settings, f.key, f.codec, f.loader⟩]
    else []
  | .ok none => []
  | .error _ => []

/-! ## The calls of the phases -/

/-- The calls that record something: one, or none if there is nothing to
record. -/
inductive Written (key : String) (ttl : Duration) :
    WriteBack → List (HostCall V E L) → Prop where
  | value (v : Json) (answer : Except BackendError Unit) :
    Written key ttl (.value v) [.set key v ttl answer]
  | failure (e : CachedError) (answer : Except BackendError Bool) :
    Written key ttl (.failure e) [.setError key e ttl answer]
  | skip : Written key ttl .skip []

/-- The calls that record something for a time that a random word
selects.  Without such a time nothing is recorded. -/
inductive Recorded (settings : CacheSettings) (key : String)
    (wb : WriteBack) :
    Except Crash Unit → List (HostCall V E L) → Prop where
  | written {word : Nat} {ttl : Duration} {calls : List (HostCall V E L)}
      (sampled : Jitter.sample? settings.ttl settings.jitterPercent word
        = some ttl)
      (written : Written key ttl wb calls) :
    Recorded settings key wb (.ok ()) (.draw word :: calls)
  | noDuration {word : Nat}
      (sampled : Jitter.sample? settings.ttl settings.jitterPercent word
        = none) :
    Recorded settings key wb (.error .noDuration) [.draw word]

/-- The calls that load a result and record it: the loader runs once,
and what it answers is the result. -/
inductive Loaded (f : Fetch V E L) :
    Except Crash (Except E V) → List (HostCall V E L) → Prop where
  | recorded {result : Except E V} {calls : List (HostCall V E L)}
      (recorded : Recorded f.settings f.key (f.codec.writeBack result)
        (.ok ()) calls) :
    Loaded f (.ok result) (.load f.loader (.ok result) :: calls)
  | unrecorded {result : Except E V} {c : Crash}
      {calls : List (HostCall V E L)}
      (recorded : Recorded f.settings f.key (f.codec.writeBack result)
        (.error c) calls) :
    Loaded f (.error c) (.load f.loader (.ok result) :: calls)
  | crashed (c : Crash) :
    Loaded f (.error c) [.load f.loader (.error c)]

namespace Layer

variable (h : Host S V E L)

/-- A look-up makes one call.  It finds what the host answers. -/
theorem makes_read (settings : CacheSettings) (key : String) :
    Makes h (read h settings key) fun found calls =>
      ∃ answer, calls = [.get key answer]
        ∧ found = (answer.toOption).join := by
  unfold read
  refine Makes.bindCall (Makes.get fun _ => rfl) ?_
  intro answer
  cases answer with
  | ok entry => exact Makes.pure ⟨.ok entry, rfl, rfl⟩
  | error e =>
    refine Makes.afterReport ?_
    exact Makes.pure ⟨.error e, rfl, rfl⟩

/-- Reading an entry back makes no call. -/
theorem makes_replay (codec : Codec V E) (settings : CacheSettings)
    (key : String) (entry : Entry) :
    Makes h (replay h codec settings key entry) fun found calls =>
      calls = [] ∧ found = codec.outcome? entry.payload := by
  unfold replay
  cases hp : entry.payload with
  | failure e => exact Makes.pure ⟨rfl, rfl⟩
  | value v =>
    dsimp only [Codec.outcome?]
    cases hv : codec.decode? v with
    | some value => exact Makes.pure ⟨rfl, rfl⟩
    | none =>
      refine Makes.afterReport ?_
      exact Makes.pure ⟨rfl, rfl⟩

/-- A refresh is handed on if there is an executor and the entry is near
its end. -/
theorem makes_offerRefresh (f : Fetch V E L) (entry : Entry) :
    Makes h (offerRefresh h f entry) fun _ calls =>
      calls = f.offers h (.ok (some entry)) := by
  unfold offerRefresh Fetch.offers
  cases hs : h.submit? with
  | none => exact Makes.pure rfl
  | some submit =>
    by_cases hr : f.settings.shouldRefresh entry = true
    · simp only [hr, if_true, Option.isSome_some, Bool.and_self]
      refine Makes.afterReport ?_
      exact Makes.submit hs rfl
    · simp only [hr, Option.isSome_some, Bool.true_and]
      exact Makes.pure rfl

/-- The first look-up makes one call and then hands on what it may. -/
theorem makes_lookup (f : Fetch V E L) :
    Makes h (lookup h f) fun found calls =>
      ∃ answer, calls = .get f.key answer :: f.offers h answer
        ∧ found = f.codec.found? answer := by
  unfold lookup
  refine Makes.bind (makes_read h f.settings f.key) ?_
  intro found calls hcalls
  obtain ⟨answer, rfl, rfl⟩ := hcalls
  rcases answer with e | _ | entry
  · exact Makes.pure ⟨.error e, rfl, rfl⟩
  · exact Makes.pure ⟨.ok none, rfl, rfl⟩
  · refine Makes.bind (makes_offerRefresh h f entry) ?_
    intro _ calls hcalls
    subst hcalls
    refine (makes_replay h f.codec f.settings f.key entry).imp ?_
    intro found calls hcalls
    obtain ⟨rfl, rfl⟩ := hcalls
    exact ⟨.ok (some entry), by rw [List.append_nil]; rfl, rfl⟩

/-- The look-up under a lock makes one call. -/
theorem makes_lookupAgain (f : Fetch V E L) :
    Makes h (lookupAgain h f) fun found calls =>
      ∃ answer, calls = [.get f.key answer]
        ∧ found = f.codec.found? answer := by
  unfold lookupAgain
  refine Makes.bind (makes_read h f.settings f.key) ?_
  intro found calls hcalls
  obtain ⟨answer, rfl, rfl⟩ := hcalls
  rcases answer with e | _ | entry
  · exact Makes.pure ⟨.error e, rfl, rfl⟩
  · exact Makes.pure ⟨.ok none, rfl, rfl⟩
  · refine (makes_replay h f.codec f.settings f.key entry).imp ?_
    intro found calls hcalls
    obtain ⟨rfl, rfl⟩ := hcalls
    exact ⟨.ok (some entry), rfl, rfl⟩

/-- A locker is asked once, and nobody is asked if there is none.  A
refusal is reported. -/
theorem makes_lockOr (key : String) (refusal : Event) :
    Makes h
      (match h.lock? with
        | none => return false
        | some lock => do
          let granted ← lock key
          if granted then return true
          else
            h.report refusal
            return false)
      fun granted calls =>
        h.lock? = none ∧ granted = false ∧ calls = []
          ∨ h.lock?.isSome ∧ calls = [.lock key granted] := by
  cases hl : h.lock? with
  | none => exact Makes.pure (.inl ⟨rfl, rfl, rfl⟩)
  | some lock =>
    refine Makes.bindCall (Makes.lock hl fun _ => rfl) ?_
    intro granted
    cases granted with
    | true => exact Makes.pure (.inr ⟨rfl, rfl⟩)
    | false =>
      refine Makes.afterReport ?_
      exact Makes.pure (.inr ⟨rfl, rfl⟩)

/-- A fetch asks the locker, if there is one, for its key. -/
theorem makes_acquire (f : Fetch V E L) :
    Makes h (acquire h f) fun granted calls =>
      h.lock? = none ∧ granted = false ∧ calls = []
        ∨ h.lock?.isSome ∧ calls = [.lock f.key granted] :=
  makes_lockOr h f.key _

/-- Encoding a value makes no call. -/
theorem makes_encodeValue (codec : Codec V E) (settings : CacheSettings)
    (key : String) (value : V) :
    Makes h (encodeValue h codec settings key value) fun wb calls =>
      calls = [] ∧ wb = codec.writeBack (.ok value) := by
  unfold encodeValue
  dsimp only [Codec.writeBack]
  cases codec.encode value with
  | ok v => exact Makes.pure ⟨rfl, rfl⟩
  | error reason =>
    refine Makes.afterReport ?_
    exact Makes.pure ⟨rfl, rfl⟩

/-- Finding out what to record makes no call. -/
theorem makes_writeBackOf (f : Fetch V E L) (result : Except E V) :
    Makes h (writeBackOf h f result) fun wb calls =>
      calls = [] ∧ wb = f.codec.writeBack result := by
  unfold writeBackOf
  cases result with
  | ok value => exact makes_encodeValue h f.codec f.settings f.key value
  | error e => exact Makes.pure ⟨rfl, rfl⟩

/-- Recording makes one call, or none if there is nothing to record. -/
theorem makes_store (settings : CacheSettings) (key : String)
    (ttl : Duration) (wb : WriteBack) :
    Makes h (store h settings key ttl wb) fun _ calls =>
      Written key ttl wb calls := by
  unfold store
  cases wb with
  | value v =>
    refine Makes.bindCall (Makes.set fun _ => rfl) ?_
    intro answer
    cases answer with
    | ok _ => exact Makes.pure (.value v _)
    | error e => exact Makes.report (.value v _)
  | failure cached =>
    refine Makes.bindCall (Makes.setError fun _ => rfl) ?_
    intro answer
    rcases answer with e | _ | _
    · exact Makes.report (.failure cached _)
    · exact Makes.pure (.failure cached _)
    · exact Makes.report (.failure cached _)
  | skip => exact Makes.pure .skip

/-- Recording for a time that is varied. -/
theorem makes_write (settings : CacheSettings) (key : String)
    (wb : WriteBack) :
    Makes h (write h settings key wb).settled
      (Recorded settings key wb) := by
  unfold write
  refine Makes.safeBind (P := fun word calls => calls = [.draw word])
    (Makes.draw fun _ => rfl) ?_
  intro word calls hcalls
  subst hcalls
  cases hs : Jitter.sample? settings.ttl settings.jitterPercent word with
  | none => exact Makes.pure (.noDuration hs)
  | some ttl =>
    refine Makes.map ((makes_store h settings key ttl wb).imp ?_)
    intro _ calls hw
    exact .written hs hw

/-- Recording the result of a loader. -/
theorem makes_record (f : Fetch V E L) (result : Except E V) :
    Makes h (record h f result).settled
      (Recorded f.settings f.key (f.codec.writeBack result)) := by
  unfold record
  refine Makes.safeBind (makes_writeBackOf h f result) ?_
  intro wb calls hcalls
  obtain ⟨rfl, rfl⟩ := hcalls
  exact makes_write h f.settings f.key _

/-- Loading and recording. -/
theorem makes_loadAndRecord (f : Fetch V E L) :
    Makes h (loadAndRecord h f).settled (Loaded f) := by
  unfold loadAndRecord
  refine Makes.actBind (P := fun answer calls =>
    calls = [.load f.loader answer]) (Makes.load fun _ => rfl) ?_ ?_
  · intro c calls hcalls
    subst hcalls
    exact .crashed c
  · intro result calls hcalls
    subst hcalls
    refine Makes.actBind (makes_record h f result) ?_ ?_
    · intro c calls hr
      exact .unrecorded hr
    · intro _ calls hr
      refine Makes.pure ?_
      rw [List.append_nil]
      exact .recorded hr

end Layer

/-! ## The whole conversation -/

/-- The conversation of a fetch with its host, up to the result of the
fetch and where it came from.

The first look-up settles a fetch whose key is found.  Otherwise the
lock is asked for, if there is a locker.  Under the lock the key is
looked up once more, and loaded if it is still missing; the lock is
given back last.  Without the lock the key is loaded at once. -/
inductive Exchange (h : Host S V E L) (f : Fetch V E L) :
    Except Crash (Except E V × Origin) → List (HostCall V E L) → Prop where
  | hit {first : Except BackendError (Option Entry)}
      {result : Except E V} (found : f.codec.found? first = some result) :
    Exchange h f (.ok (result, .cached))
      (.get f.key first :: f.offers h first)
  | unlocked {first : Except BackendError (Option Entry)}
      {outcome : Except Crash (Except E V)} {calls : List (HostCall V E L)}
      (missed : f.codec.found? first = none) (unlockable : h.lock? = none)
      (loaded : Loaded f outcome calls) :
    Exchange h f (outcome.map (·, .loaded))
      (.get f.key first :: f.offers h first ++ calls)
  | refused {first : Except BackendError (Option Entry)}
      {outcome : Except Crash (Except E V)} {calls : List (HostCall V E L)}
      (missed : f.codec.found? first = none) (lockable : h.lock?.isSome)
      (loaded : Loaded f outcome calls) :
    Exchange h f (outcome.map (·, .loaded))
      (.get f.key first :: f.offers h first
        ++ .lock f.key false :: calls)
  | hitAgain {first again : Except BackendError (Option Entry)}
      {result : Except E V} (missed : f.codec.found? first = none)
      (lockable : h.lock?.isSome)
      (found : f.codec.found? again = some result) :
    Exchange h f (.ok (result, .cached))
      (.get f.key first :: f.offers h first
        ++ [.lock f.key true, .get f.key again, .release f.key])
  | locked {first again : Except BackendError (Option Entry)}
      {outcome : Except Crash (Except E V)} {calls : List (HostCall V E L)}
      (missed : f.codec.found? first = none) (lockable : h.lock?.isSome)
      (missedAgain : f.codec.found? again = none)
      (loaded : Loaded f outcome calls) :
    Exchange h f (outcome.map (·, .loaded))
      (.get f.key first :: f.offers h first
        ++ .lock f.key true :: .get f.key again :: calls
        ++ [.release f.key])

/-- A fetch answers what a look-up has found, or what it has loaded. -/
theorem Exchange.found_or_loaded {h : Host S V E L} {f : Fetch V E L}
    {outcome : Except Crash (Except E V × Origin)}
    {calls : List (HostCall V E L)} (hex : Exchange h f outcome calls) :
    (∃ answer result, .get f.key answer ∈ calls
        ∧ f.codec.found? answer = some result
        ∧ outcome = .ok (result, .cached))
      ∨ ∃ loaded more, Loaded f loaded more ∧ more ⊆ calls
        ∧ outcome = loaded.map (·, .loaded) := by
  cases hex with
  | hit found => exact .inl ⟨_, _, List.mem_cons_self, found, rfl⟩
  | unlocked _ _ hl =>
    exact .inr ⟨_, _, hl, List.subset_append_right _ _, rfl⟩
  | refused _ _ hl =>
    refine .inr ⟨_, _, hl, ?_, rfl⟩
    exact List.subset_append_of_subset_right _ (List.subset_cons_self _ _)
  | hitAgain _ _ found =>
    refine .inl ⟨_, _, ?_, found, rfl⟩
    exact List.mem_append_right _
      (List.mem_cons_of_mem _ List.mem_cons_self)
  | locked _ _ _ hl =>
    refine .inr ⟨_, _, hl, ?_, rfl⟩
    apply List.subset_append_of_subset_left
    apply List.subset_append_of_subset_right
    exact List.subset_cons_of_subset _ (List.subset_cons_self _ _)

namespace Layer

variable (h : Host S V E L)

/-- What a fetch does under its lock, up to giving it back. -/
private theorem makes_populateLocked (f : Fetch V E L) :
    Makes h (populateLocked h f).settled fun outcome calls =>
      ∃ again, (∃ result, f.codec.found? again = some result
          ∧ outcome = .ok (result, .cached) ∧ calls = [.get f.key again])
        ∨ f.codec.found? again = none
          ∧ ∃ loaded more, outcome = Except.map (·, .loaded) loaded
            ∧ calls = .get f.key again :: more
            ∧ Loaded f loaded more := by
  unfold populateLocked
  refine Makes.safeBind (makes_lookupAgain h f) ?_
  intro found calls hcalls
  obtain ⟨again, rfl, rfl⟩ := hcalls
  cases hf : f.codec.found? again with
  | some result => exact Makes.pure ⟨again, .inl ⟨result, hf, rfl, rfl⟩⟩
  | none =>
    refine Makes.actBind (makes_loadAndRecord h f) ?_ ?_
    · intro c calls hl
      exact ⟨again, .inr ⟨hf, .error c, calls, rfl, rfl, hl⟩⟩
    · intro result calls hl
      refine Makes.pure ⟨again, .inr ⟨hf, .ok result, calls, rfl, ?_, hl⟩⟩
      rw [List.append_nil]
      rfl

/-- Every fetch has a conversation with its host, whatever the host
answers. -/
theorem makes_populate (f : Fetch V E L) :
    Makes h (populate h f).settled (Exchange h f) := by
  unfold populate
  refine Makes.safeBind (makes_lookup h f) ?_
  intro found calls hcalls
  obtain ⟨first, rfl, rfl⟩ := hcalls
  cases hf : f.codec.found? first with
  | some result =>
    refine Makes.pure ?_
    rw [List.append_nil]
    exact .hit hf
  | none =>
    refine Makes.safeBind (makes_acquire h f) ?_
    intro granted calls hacquire
    rcases hacquire with ⟨hl, rfl, rfl⟩ | ⟨hl, rfl⟩
    · refine Makes.actBind (makes_loadAndRecord h f) ?_ ?_
      · intro c calls hloaded
        exact .unlocked hf hl hloaded
      · intro result calls hloaded
        refine Makes.pure ?_
        rw [List.append_nil]
        exact .unlocked hf hl hloaded
    · cases granted with
      | false =>
        refine Makes.actBind (makes_loadAndRecord h f) ?_ ?_
        · intro c calls hloaded
          exact .refused hf hl hloaded
        · intro result calls hloaded
          refine Makes.pure ?_
          rw [List.append_nil]
          exact .refused hf hl hloaded
      | true =>
        refine Makes.thenAlways (makes_populateLocked h f) ?_
        intro outcome calls hcalls
        obtain ⟨again, ⟨result, hfound, rfl, rfl⟩ | hmissed⟩ := hcalls
        · exact Makes.release (.hitAgain hf hl hfound)
        · obtain ⟨hagain, loaded, more, rfl, rfl, hloaded⟩ := hmissed
          refine Makes.release ?_
          have hex := Exchange.locked (h := h) hf hl hagain hloaded
          rw [List.append_assoc] at hex
          exact hex

end Layer

end PolicyWeave
