import PolicyWeave.Cache.Schedule

/-!
# Layers on two hosts

A layer does the same on two hosts whose operations do the same, even
where the hosts work on different states and name their loaders
differently.

There are three groups.

* `Paired` says of two runs of steps that they lead from related states to
  related states and answer related values.  It has one rule for each way
  to put steps together.
* `Host.Coupled` are two hosts whose operations are paired.  Loaders are
  related by a relation of their own.
* One lemma for each phase of a fetch and of a refresh, which says that
  the phase is paired on coupled hosts.
-/

namespace PolicyWeave

variable {S S' V E L L' : Type}

/-! ## Paired steps -/

/-- Steps that lead from states related by `R` to such states, with
answers related by `Q`. -/
def Paired {α β : Type} (R : S → S' → Prop) (Q : α → β → Prop)
    (m : StateM S α) (m' : StateM S' β) : Prop :=
  ∀ s s', R s s' → Q (m s).1 (m' s').1 ∧ R (m s).2 (m' s').2

namespace Paired

variable {R : S → S' → Prop} {α α' β β' : Type}

theorem pure {Q : α → β → Prop} {a : α} {b : β} (h : Q a b) :
    Paired R Q (Pure.pure a) (Pure.pure b) :=
  fun _ _ hs => ⟨h, hs⟩

/-- Steps after steps are paired if both are. -/
theorem bind {P : α → α' → Prop} {Q : β → β' → Prop} {m : StateM S α}
    {m' : StateM S' α'} {k : α → StateM S β} {j : α' → StateM S' β'}
    (hm : Paired R P m m')
    (hk : ∀ a a', P a a' → Paired R Q (k a) (j a')) :
    Paired R Q (m >>= k) (m' >>= j) := by
  intro s s' hs
  obtain ⟨hanswer, hstates⟩ := hm s s' hs
  exact hk _ _ hanswer _ _ hstates

/-- Steps after steps that answer the same. -/
theorem bindEq {Q : β → β' → Prop} {m : StateM S α} {m' : StateM S' α}
    {k : α → StateM S β} {j : α → StateM S' β'} (hm : Paired R Eq m m')
    (hk : ∀ a, Paired R Q (k a) (j a)) :
    Paired R Q (m >>= k) (m' >>= j) :=
  hm.bind fun a _ heq => heq ▸ hk a

theorem map {m : StateM S α} {m' : StateM S' α} (g : α → β)
    (hm : Paired R Eq m m') : Paired R Eq (g <$> m) (g <$> m') := by
  intro s s' hs
  obtain ⟨hanswer, hstates⟩ := hm s s' hs
  exact ⟨congrArg g hanswer, hstates⟩

/-- Steps that may crash, after steps that may crash. -/
theorem actBind {act : Act S α} {act' : Act S' α} {k : α → Act S β}
    {j : α → Act S' β} (hact : Paired R Eq act.settled act'.settled)
    (hk : ∀ a, Paired R Eq (k a).settled (j a).settled) :
    Paired R Eq (act >>= k).settled (act' >>= j).settled := by
  refine Paired.bindEq (k := ExceptT.bindCont k)
    (j := ExceptT.bindCont j) hact ?_
  intro outcome
  cases outcome with
  | error c => exact .pure rfl
  | ok a => exact hk a

theorem actMap {act : Act S α} {act' : Act S' α} (g : α → β)
    (hact : Paired R Eq act.settled act'.settled) :
    Paired R Eq (Act.settled (g <$> act)) (Act.settled (g <$> act')) :=
  hact.actBind fun _ => .pure rfl

/-- Steps that may crash, after steps that never do. -/
theorem safeBind {P : α → α' → Prop} {m : StateM S α} {m' : StateM S' α'}
    {k : α → Act S β} {j : α' → Act S' β} (hm : Paired R P m m')
    (hk : ∀ a a', P a a' → Paired R Eq (k a).settled (j a').settled) :
    Paired R Eq (Act.settled (ExceptT.lift m >>= k))
      (Act.settled (ExceptT.lift m' >>= j)) :=
  Paired.bind (k := fun a => (k a).settled)
    (j := fun a => (j a).settled) hm hk

/-- Steps that may crash, after steps that answer the same and never
do. -/
theorem safeBindEq {m : StateM S α} {m' : StateM S' α}
    {k : α → Act S β} {j : α → Act S' β} (hm : Paired R Eq m m')
    (hk : ∀ a, Paired R Eq (k a).settled (j a).settled) :
    Paired R Eq (Act.settled (ExceptT.lift m >>= k))
      (Act.settled (ExceptT.lift m' >>= j)) :=
  hm.safeBind fun a _ heq => heq ▸ hk a

theorem safeMap {m : StateM S α} {m' : StateM S' α} (g : α → β)
    (hm : Paired R Eq m m') :
    Paired R Eq (Act.settled (g <$> Act.safe m))
      (Act.settled (g <$> Act.safe m')) :=
  hm.safeBindEq fun _ => .pure rfl

/-- Steps that may crash, with a last one that follows them anyway. -/
theorem thenAlways {act : Act S α} {act' : Act S' α}
    {last : StateM S Unit} {last' : StateM S' Unit}
    (hact : Paired R Eq act.settled act'.settled)
    (hlast : Paired R Eq last last') :
    Paired R Eq (act.thenAlways last).settled
      (act'.thenAlways last').settled :=
  hact.bindEq fun _ => hlast.bindEq fun _ => .pure rfl

end Paired

/-! ## Coupled hosts -/

/-- The same fetch with another loader. -/
def Fetch.withLoader (f : Fetch V E L) (l' : L') : Fetch V E L' :=
  ⟨f.settings, f.key, f.codec, l', f.evicts⟩

/-- The same refresh with another loader. -/
def Refresh.withLoader (r : Refresh V E L) (l' : L') : Refresh V E L' :=
  ⟨r.settings, r.key, r.codec, l'⟩

/-- Refreshes that are the same but for their loaders, which are
related. -/
def Refresh.Alike (T : L → L' → Prop) (r : Refresh V E L)
    (r' : Refresh V E L') : Prop :=
  ∃ l', T r.loader l' ∧ r' = r.withLoader l'

/-- Jobs at the same stage of refreshes that are alike. -/
def Job.Alike (T : L → L' → Prop) (j : Job V E L) (j' : Job V E L') :
    Prop :=
  j.refresh.Alike T j'.refresh ∧ j.stage = j'.stage

/-- Hosts over two states whose operations are paired.  Loaders that `T`
relates answer the same and pause alike. -/
structure Host.Coupled (R : S → S' → Prop) (T : L → L' → Prop)
    (h : Host S V E L) (h' : Host S' V E L') : Prop where
  get : ∀ key, Paired R Eq (h.get key) (h'.get key)
  set : ∀ key v ttl, Paired R Eq (h.set key v ttl) (h'.set key v ttl)
  setError : ∀ key e ttl,
    Paired R Eq (h.setError key e ttl) (h'.setError key e ttl)
  delete : ∀ keys, Paired R Eq (h.delete keys) (h'.delete keys)
  lock : Option.Rel
    (fun lock lock' => ∀ key, Paired R Eq (lock key) (lock' key))
    h.lock? h'.lock?
  release : ∀ key, Paired R Eq (h.release key) (h'.release key)
  offer : ∀ (f : Fetch V E L) (l' : L') (entry : Entry), T f.loader l' →
    Paired R Eq (Layer.offerRefresh h f entry)
      (Layer.offerRefresh h' (f.withLoader l') entry)
  load : ∀ l l', T l l' →
    Paired R Eq (h.load l).settled (h'.load l').settled
  pauses : ∀ l l', T l l' → h.pauses l = h'.pauses l'
  draw : Paired R Eq h.draw h'.draw
  report : ∀ e, Paired R Eq (h.report e) (h'.report e)

/-- Both hosts have a locker, or neither has one. -/
theorem Host.Coupled.isSome_lock? {R : S → S' → Prop} {T : L → L' → Prop}
    {h : Host S V E L} {h' : Host S' V E L'} (hc : Host.Coupled R T h h') :
    h.lock?.isSome = h'.lock?.isSome := by
  have hlock := hc.lock
  generalize h.lock? = lock at hlock ⊢
  generalize h'.lock? = lock' at hlock ⊢
  cases hlock <;> rfl

namespace Layer

section Phases

variable {R : S → S' → Prop} {T : L → L' → Prop} {h : Host S V E L}
  {h' : Host S' V E L'} (hc : Host.Coupled R T h h')

include hc

/-! ## Fetches -/

theorem paired_read (settings : CacheSettings) (key : String) :
    Paired R Eq (read h settings key) (read h' settings key) := by
  unfold read
  refine (hc.get key).bindEq ?_
  intro answer
  cases answer with
  | ok entry => exact .pure rfl
  | error e => exact (hc.report _).bindEq fun _ => .pure rfl

theorem paired_replay (codec : Codec V E) (settings : CacheSettings)
    (key : String) (entry : Entry) :
    Paired R Eq (replay h codec settings key entry)
      (replay h' codec settings key entry) := by
  unfold replay
  cases entry.payload with
  | failure e => exact .pure rfl
  | value v =>
    dsimp only
    cases codec.decode? v with
    | some value => exact .pure rfl
    | none => exact (hc.report _).bindEq fun _ => .pure rfl

theorem paired_lookup (f : Fetch V E L) {l' : L'} (hl : T f.loader l') :
    Paired R Eq (lookup h f) (lookup h' (f.withLoader l')) := by
  unfold lookup
  refine (paired_read hc f.settings f.key).bindEq ?_
  intro found
  cases found with
  | none => exact .pure rfl
  | some entry =>
    refine (hc.offer f l' entry hl).bindEq ?_
    intro _
    exact paired_replay hc f.codec f.settings f.key entry

theorem paired_lookupAgain (f : Fetch V E L) (l' : L') :
    Paired R Eq (lookupAgain h f) (lookupAgain h' (f.withLoader l')) := by
  unfold lookupAgain
  refine (paired_read hc f.settings f.key).bindEq ?_
  intro found
  cases found with
  | none => exact .pure rfl
  | some entry => exact paired_replay hc f.codec f.settings f.key entry

/-- An attempt to hold a lock, with the message about a failed one. -/
theorem paired_tryLock {lock : String → StateM S Bool}
    {lock' : String → StateM S' Bool}
    (hlock : ∀ key, Paired R Eq (lock key) (lock' key)) (key : String)
    (e : Event) :
    Paired R Eq
      (do
        let granted ← lock key
        if granted then return true
        else
          h.report e
          return false)
      (do
        let granted ← lock' key
        if granted then return true
        else
          h'.report e
          return false) := by
  refine (hlock key).bindEq ?_
  intro granted
  cases granted with
  | true => exact .pure rfl
  | false => exact (hc.report _).bindEq fun _ => .pure rfl

theorem paired_acquire (f : Fetch V E L) (l' : L') :
    Paired R Eq (acquire h f) (acquire h' (f.withLoader l')) := by
  have hlock := hc.lock
  unfold acquire
  generalize h.lock? = lock at hlock ⊢
  generalize h'.lock? = lock' at hlock ⊢
  cases hlock with
  | none => exact .pure rfl
  | some hlock => exact paired_tryLock hc hlock f.key _

theorem paired_encodeValue (codec : Codec V E) (settings : CacheSettings)
    (key : String) (value : V) :
    Paired R Eq (encodeValue h codec settings key value)
      (encodeValue h' codec settings key value) := by
  unfold encodeValue
  cases codec.encode value with
  | ok v => exact .pure rfl
  | error reason => exact (hc.report _).bindEq fun _ => .pure rfl

theorem paired_writeBackOf (f : Fetch V E L) (l' : L')
    (result : Except E V) :
    Paired R Eq (writeBackOf h f result)
      (writeBackOf h' (f.withLoader l') result) := by
  unfold writeBackOf
  cases result with
  | error e => exact .pure rfl
  | ok value => exact paired_encodeValue hc f.codec f.settings f.key value

theorem paired_store (settings : CacheSettings) (key : String)
    (ttl : Duration) (wb : WriteBack) :
    Paired R Eq (store h settings key ttl wb)
      (store h' settings key ttl wb) := by
  unfold store
  cases wb with
  | value v =>
    refine (hc.set key v ttl).bindEq ?_
    intro answer
    cases answer with
    | ok _ => exact .pure rfl
    | error e => exact hc.report _
  | failure cached =>
    refine (hc.setError key cached ttl).bindEq ?_
    intro answer
    rcases answer with e | _ | _
    · exact hc.report _
    · exact .pure rfl
    · exact hc.report _
  | skip => exact .pure rfl

theorem paired_write (settings : CacheSettings) (key : String)
    (wb : WriteBack) :
    Paired R Eq (write h settings key wb).settled
      (write h' settings key wb).settled := by
  unfold write
  refine Paired.safeBindEq hc.draw ?_
  intro word
  cases Jitter.sample? settings.ttl settings.jitterPercent word with
  | none => exact .pure rfl
  | some ttl => exact (paired_store hc settings key ttl wb).map _

theorem paired_record (f : Fetch V E L) (l' : L') (result : Except E V) :
    Paired R Eq (record h f result).settled
      (record h' (f.withLoader l') result).settled := by
  unfold record
  exact (paired_writeBackOf hc f l' result).safeBindEq
    fun wb => paired_write hc f.settings f.key wb

theorem paired_loadAndRecord (f : Fetch V E L) {l' : L'}
    (hl : T f.loader l') :
    Paired R Eq (loadAndRecord h f).settled
      (loadAndRecord h' (f.withLoader l')).settled := by
  unfold loadAndRecord
  refine Paired.actBind (hc.load _ _ hl) ?_
  intro result
  exact (paired_record hc f l' result).actBind fun _ => .pure rfl

theorem paired_populateLocked (f : Fetch V E L) {l' : L'}
    (hl : T f.loader l') :
    Paired R Eq (populateLocked h f).settled
      (populateLocked h' (f.withLoader l')).settled := by
  unfold populateLocked
  refine (paired_lookupAgain hc f l').safeBindEq ?_
  intro found
  cases found with
  | some result => exact .pure rfl
  | none =>
    exact (paired_loadAndRecord hc f hl).actBind fun _ => .pure rfl

theorem paired_populate (f : Fetch V E L) {l' : L'}
    (hl : T f.loader l') :
    Paired R Eq (populate h f).settled
      (populate h' (f.withLoader l')).settled := by
  unfold populate
  refine (paired_lookup hc f hl).safeBindEq ?_
  intro found
  cases found with
  | some result => exact .pure rfl
  | none =>
    refine (paired_acquire hc f l').safeBindEq ?_
    intro granted
    cases granted with
    | true =>
      exact (paired_populateLocked hc f hl).thenAlways (hc.release f.key)
    | false =>
      exact (paired_loadAndRecord hc f hl).actBind fun _ => .pure rfl

theorem paired_evictKeys (method : String) (keys : List String) :
    Paired R Eq (evictKeys h method keys) (evictKeys h' method keys) := by
  unfold evictKeys
  split
  · exact .pure rfl
  · refine (hc.delete keys).bindEq ?_
    intro answer
    cases answer with
    | error e => exact .pure rfl
    | ok _ => exact (hc.report _).bindEq fun _ => .pure rfl

theorem paired_evictOnSuccess (method : String) (keys : List String)
    (result : Except E V) :
    Paired R Eq (evictOnSuccess h method keys result)
      (evictOnSuccess h' method keys result) := by
  unfold evictOnSuccess
  cases result with
  | error e => exact .pure rfl
  | ok value =>
    refine (paired_evictKeys hc method keys).bindEq ?_
    intro answer
    cases answer with
    | ok _ => exact .pure rfl
    | error e => exact (hc.report _).bindEq fun _ => .pure rfl

theorem paired_evictAfter (f : Fetch V E L) (l' : L') (origin : Origin)
    (result : Except E V) :
    Paired R Eq (evictAfter h f origin result)
      (evictAfter h' (f.withLoader l') origin result) := by
  unfold evictAfter Fetch.withLoader
  dsimp only
  split
  · exact paired_evictOnSuccess hc f.settings.method _ result
  · exact .pure rfl

/-- A fetch on coupled hosts, with loaders that are related. -/
theorem paired_fetch (f : Fetch V E L) {l' : L'} (hl : T f.loader l') :
    Paired R Eq (fetch h f).settled
      (fetch h' (f.withLoader l')).settled := by
  unfold fetch
  refine (paired_populate hc f hl).actBind ?_
  intro answer
  exact (paired_evictAfter hc f l' answer.2 answer.1).map _

/-! ## Refreshes -/

theorem paired_acquireFor (r : Refresh V E L) (l' : L') :
    Paired R Eq (acquireFor h r) (acquireFor h' (r.withLoader l')) := by
  have hlock := hc.lock
  unfold acquireFor
  generalize h.lock? = lock at hlock ⊢
  generalize h'.lock? = lock' at hlock ⊢
  cases hlock with
  | none => exact .pure rfl
  | some hlock => exact paired_tryLock hc hlock r.key _

theorem paired_recordRefresh (r : Refresh V E L) (l' : L')
    (result : Except E V) :
    Paired R Eq (recordRefresh h r result).settled
      (recordRefresh h' (r.withLoader l') result).settled := by
  unfold recordRefresh
  cases result with
  | ok value =>
    exact (paired_encodeValue hc r.codec r.settings r.key
      value).safeBindEq fun wb => paired_write hc r.settings r.key wb
  | error e =>
    exact (hc.report _).safeBindEq fun _ =>
      paired_write hc r.settings r.key .skip

theorem paired_reload (r : Refresh V E L) {l' : L'}
    (hl : T r.loader l') :
    Paired R Eq (reload h r).settled
      (reload h' (r.withLoader l')).settled := by
  unfold reload
  exact Paired.actBind (hc.load _ _ hl)
    fun result => paired_recordRefresh hc r l' result

/-- A refresh on coupled hosts, with loaders that are related. -/
theorem paired_refresh (r : Refresh V E L) {l' : L'}
    (hl : T r.loader l') :
    Paired R Eq (refresh h r).settled
      (refresh h' (r.withLoader l')).settled := by
  unfold refresh
  rw [hc.isSome_lock?]
  split
  · refine (paired_acquireFor hc r l').safeBindEq ?_
    intro granted
    cases granted with
    | true => exact (paired_reload hc r hl).thenAlways (hc.release r.key)
    | false => exact .pure rfl
  · exact paired_reload hc r hl

/-! ## Refreshes in turn -/

theorem paired_releaseIf (locked : Bool) (key : String) :
    Paired R Eq (releaseIf h locked key) (releaseIf h' locked key) := by
  unfold releaseIf
  split
  · exact hc.release key
  · exact .pure rfl

theorem paired_stepRefresh (r : Refresh V E L) {l' : L'}
    (hl : T r.loader l') (stage : RefreshStage V E) :
    Paired R Eq (stepRefresh h r stage)
      (stepRefresh h' (r.withLoader l') stage) := by
  cases stage with
  | start =>
    simp only [stepRefresh, hc.isSome_lock?]
    exact .pure rfl
  | lock =>
    refine (paired_acquireFor hc r l').bindEq ?_
    intro granted
    cases granted <;> exact .pure rfl
  | load locked =>
    refine (hc.load _ _ hl).bindEq ?_
    intro outcome
    cases outcome with
    | ok result =>
      have hpauses : h.pauses r.loader = h'.pauses l' := hc.pauses _ _ hl
      exact .pure (congrArg (RefreshStage.loading locked · result) hpauses)
    | error c =>
      exact (paired_releaseIf hc locked r.key).bindEq fun _ => .pure rfl
  | loading locked pauses result =>
    cases pauses with
    | succ n => exact .pure rfl
    | zero =>
      refine (paired_recordRefresh hc r l' result).bindEq fun _ => ?_
      exact (paired_releaseIf hc locked r.key).bindEq fun _ => .pure rfl
  | ended => exact .pure rfl

theorem paired_advanceRefresh (r : Refresh V E L) {l' : L'}
    (hl : T r.loader l') (fuel : Nat) (stage : RefreshStage V E) :
    Paired R Eq (advanceRefresh h r fuel stage)
      (advanceRefresh h' (r.withLoader l') fuel stage) := by
  induction fuel generalizing stage with
  | zero => exact .pure rfl
  | succ fuel ih =>
    unfold advanceRefresh
    split
    · exact .pure rfl
    · refine (paired_stepRefresh hc r hl stage).bindEq ?_
      intro next
      split
      · exact .pure rfl
      · exact ih next

theorem paired_pollJob {j : Job V E L} {j' : Job V E L'}
    (hj : j.Alike T j') :
    Paired R (Job.Alike T) (pollJob h j) (pollJob h' j') := by
  obtain ⟨r, stage⟩ := j
  obtain ⟨r', stage'⟩ := j'
  obtain ⟨⟨l', hl, rfl⟩, rfl⟩ := hj
  refine (paired_advanceRefresh hc r hl 4 stage).bindEq fun next => ?_
  exact .pure ⟨⟨l', hl, rfl⟩, rfl⟩

end Phases

end Layer

end PolicyWeave
