import PolicyWeave.Cache.World
import PolicyWeave.Proofs.Cache.Moves

/-!
# What entries stand for

A `Meaning` gives every key one answer, the one that all loaders of the
key have.  An entry stands for its key when it is what that answer is
recorded as.

There are three groups.

* `Meaning` with its two laws, and `Meaning.Stands`: what reads back from
  an entry that stands for its key is the answer of the key.
* `Meaning.Fills` is a store whose entries all stand for their keys.  It
  is kept by every operation of a store that puts nothing else in.
* `Meaning.Asks` and `Meaning.Told` are the calls that fetches and
  refreshes with these answers make, and the answers that they get.
-/

namespace PolicyWeave

variable {S V E L X : Type}

/-- The answers of the keys, and the codec of each one.  What reads back
from an encoded value is the value, and what comes back from a recorded
error is the error. -/
structure Meaning (V E : Type) where
  codec : String → Codec V E
  answer : String → Except E V
  decode_encode : ∀ {key : String} {value again : V} {v : Json},
    (codec key).encode value = .ok v →
    (codec key).decode? v = some again → again = value
  ofCached_toCached : ∀ {key : String} {e : E} {cached : CachedError},
    (codec key).toCached? e = some cached →
    (codec key).ofCached cached = e

/-- What is kept of something that is to be recorded. -/
def WriteBack.payload? : WriteBack → Option Payload
  | .value v => some (.value v)
  | .failure e => some (.failure e)
  | .skip => none

namespace Meaning

variable (m : Meaning V E)

/-! ## Entries -/

/-- Payloads that the answer of a key is recorded as. -/
inductive Stands (key : String) : Payload → Prop where
  | value {value : V} {v : Json} (answer : m.answer key = .ok value)
      (encoded : (m.codec key).encode value = .ok v) :
    Stands key (.value v)
  | failure {e : E} {cached : CachedError}
      (answer : m.answer key = .error e)
      (kept : (m.codec key).toCached? e = some cached) :
    Stands key (.failure cached)

variable {m}

/-- What reads back from a payload that stands for a key is the answer of
the key. -/
theorem Stands.eq_answer {key : String} {payload : Payload}
    {result : Except E V} (hstands : m.Stands key payload)
    (hread : (m.codec key).outcome? payload = some result) :
    result = m.answer key := by
  cases hstands with
  | value answer encoded =>
    obtain ⟨again, hagain, rfl⟩ := Option.map_eq_some_iff.1 hread
    rw [answer, m.decode_encode encoded hagain]
  | failure answer kept =>
    have hresult := Option.some.inj hread
    rw [answer, ← hresult, m.ofCached_toCached kept]

/-- What is to be recorded about the answer of a key stands for it. -/
theorem stands_of_writeBack {key : String} {payload : Payload}
    (hwb : ((m.codec key).writeBack (m.answer key)).payload?
      = some payload) : m.Stands key payload := by
  cases hanswer : m.answer key with
  | ok value =>
    rw [hanswer, Codec.writeBack] at hwb
    cases hencode : (m.codec key).encode value with
    | ok v =>
      rw [hencode] at hwb
      cases hwb
      exact .value hanswer hencode
    | error reason =>
      rw [hencode] at hwb
      cases hwb
  | error e =>
    rw [hanswer, Codec.writeBack] at hwb
    cases hkept : (m.codec key).toCached? e with
    | some cached =>
      rw [hkept] at hwb
      cases hwb
      exact .failure hanswer hkept
    | none =>
      rw [hkept] at hwb
      cases hwb

/-- What a refresh records about the answer of a key stands for it. -/
theorem stands_of_freshen {key : String} {payload : Payload}
    (hwb : ((m.codec key).freshen (m.answer key)).payload?
      = some payload) : m.Stands key payload := by
  cases hanswer : m.answer key with
  | ok value =>
    rw [hanswer, Codec.freshen, ← hanswer] at hwb
    exact stands_of_writeBack hwb
  | error e =>
    rw [hanswer] at hwb
    cases hwb

/-! ## Stores -/

variable (m) in
/-- A store whose entries all stand for their keys. -/
def Fills (s : Store) : Prop :=
  ∀ key e, s.entry? key = some e → m.Stands key e.payload

namespace Fills

variable {s : Store} {key : String}

/-- The entries alone count. -/
theorem of_entries {t : Store} (hs : m.Fills s)
    (hentries : t.entries = s.entries) : m.Fills t := by
  intro key e he
  refine hs key e ?_
  rw [Store.entry?, ← hentries]
  exact he

theorem put {e : Entry} (hs : m.Fills s)
    (he : m.Stands key e.payload) : m.Fills (s.put key e) := by
  intro other e' he'
  rw [Store.entry?, Store.put] at he'
  by_cases hkey : other = key
  · rw [hkey, Table.get?_insert_self] at he'
    rw [hkey, ← Option.some.inj he']
    exact he
  · rw [Table.get?_insert_of_ne hkey] at he'
    exact hs other e' he'

theorem keep {payload : Payload} {ttl : Duration} (hs : m.Fills s)
    (hp : m.Stands key payload) : m.Fills (s.keep key payload ttl) := by
  rw [Store.keep]
  exact (hs.of_entries rfl).put hp

theorem get (hs : m.Fills s) : m.Fills (Store.get key s).2 := by
  unfold Store.get
  dsimp only
  split <;> exact hs.of_entries rfl

theorem set {v : Json} {ttl : Duration} (hs : m.Fills s)
    (hv : m.Stands key (.value v)) :
    m.Fills (Store.set key v ttl s).2 := by
  unfold Store.set
  dsimp only
  split
  · exact hs.of_entries rfl
  · exact (hs.of_entries rfl).keep hv

theorem setError {e : CachedError} {ttl : Duration} (hs : m.Fills s)
    (he : m.Stands key (.failure e)) :
    m.Fills (Store.setError key e ttl s).2 := by
  unfold Store.setError
  dsimp only
  split
  · exact hs.of_entries rfl
  · split
    · exact hs.of_entries rfl
    · exact (hs.of_entries rfl).keep he

/-- Deleting keys leaves entries that were there. -/
theorem get?_eraseAll {undeletable : List String} {e : Entry} :
    ∀ (keys : List String) (entries : List (String × Entry)),
      Table.get? key (Store.eraseAll undeletable keys entries) = some e →
      Table.get? key entries = some e := by
  intro keys
  induction keys with
  | nil =>
    intro entries he
    exact he
  | cons first rest ih =>
    intro entries he
    have hrest := ih _ he
    dsimp only at hrest
    split at hrest
    · exact hrest
    · by_cases hkey : key = first
      · rw [hkey, Table.get?_erase_self] at hrest
        cases hrest
      · rw [Table.get?_erase_of_ne hkey] at hrest
        exact hrest

theorem delete {keys : List String} (hs : m.Fills s) :
    m.Fills (Store.delete keys s).2 := by
  unfold Store.delete
  dsimp only
  split
  · exact hs.of_entries rfl
  · split
    all_goals
      intro key e he
      exact hs key e (get?_eraseAll keys s.entries he)

theorem age {remaining : Duration} (hs : m.Fills s) :
    m.Fills (s.age key remaining).2 := by
  unfold Store.age
  cases he : s.entry? key with
  | none => exact hs
  | some e => exact hs.put (hs key e he)

end Fills

/-! ## Loaders and calls -/

section Calls

variable (m)
variable (load : L → Act (World V E L X) (Except E V))

/-- A loader that has the answer of a key and leaves alone what a layer
works on. -/
def Loads (loader : L) (key : String) : Prop :=
  ∀ w, ((load loader).settled w).1 = .ok (m.answer key)
    ∧ ((load loader).settled w).2.store = w.store
    ∧ ((load loader).settled w).2.queue = w.queue
    ∧ ((load loader).settled w).2.words = w.words

/-- A call or a refresh of a key, with the codec and a loader of the
key. -/
structure Serves (key : String) (codec : Codec V E) (loader : L) :
    Prop where
  codec_eq : codec = m.codec key
  loads : m.Loads load loader key

/-- Calls that keep every entry standing for its key. -/
def Asks : HostCall V E L → Prop
  | .set key v _ _ => m.Stands key (.value v)
  | .setError key e _ _ => m.Stands key (.failure e)
  | .submit r => m.Serves load r.key r.codec r.loader
  | .load loader _ => ∃ key, m.Loads load loader key
  | _ => True

/-- Calls that are answered with what stands for a key. -/
def Told : HostCall V E L → Prop
  | .get key answer => ∀ e, answer = .ok (some e) → m.Stands key e.payload
  | .load loader answer =>
    ∀ key, m.Loads load loader key → answer = .ok (m.answer key)
  | .draw word => word < UInt64.size
  | _ => True

/-- Calls to loaders that are answered with the answer of a key. -/
def LoadsTold (calls : List (HostCall V E L)) : Prop :=
  ∀ loader answer, .load loader answer ∈ calls →
    m.Told load (.load loader answer)

end Calls

variable {load : L → Act (World V E L X) (Except E V)}
  {calls : List (HostCall V E L)}

/-- Recording what stands for a key. -/
theorem asks_of_recorded {settings : CacheSettings} {key : String}
    {wb : WriteBack} {outcome : Except Crash Unit}
    (hr : Recorded settings key wb outcome calls)
    (hwb : ∀ payload, wb.payload? = some payload →
      m.Stands key payload) : ∀ c ∈ calls, m.Asks load c := by
  cases hr with
  | noDuration _ => exact List.forall_mem_singleton.2 trivial
  | written _ written =>
    refine List.forall_mem_cons.2 ⟨trivial, ?_⟩
    cases written with
    | value v answer => exact List.forall_mem_singleton.2 (hwb _ rfl)
    | failure e answer => exact List.forall_mem_singleton.2 (hwb _ rfl)
    | skip => exact List.forall_mem_nil _

theorem asks_of_deleted (hd : Deleted calls) :
    ∀ c ∈ calls, m.Asks load c := by
  cases hd with
  | nothing => exact List.forall_mem_nil _
  | batch keys answer => exact List.forall_mem_singleton.2 trivial

theorem asks_of_released {locked : Bool} {key : String} :
    ∀ c ∈ (released locked key : List (HostCall V E L)),
      m.Asks load c := by
  cases locked with
  | false => exact List.forall_mem_nil _
  | true => exact List.forall_mem_singleton.2 trivial

/-! ## Fetches -/

section Fetch

variable {f : Fetch V E L} (hf : m.Serves load f.key f.codec f.loader)

include hf

theorem asks_of_offers {h : Host S V E L}
    (first : Except BackendError (Option Entry)) :
    ∀ c ∈ f.offers h first, m.Asks load c := by
  unfold Fetch.offers
  split
  · split
    · exact List.forall_mem_singleton.2 hf
    · exact List.forall_mem_nil _
  · exact List.forall_mem_nil _
  · exact List.forall_mem_nil _

/-- A loader that is told the answer of a key has it. -/
theorem eq_answer_of_mem {result : Except E V}
    (htold : m.LoadsTold load calls)
    (hmem : .load f.loader (.ok result) ∈ calls) :
    result = m.answer f.key :=
  Except.ok.inj (htold _ _ hmem f.key hf.loads)

/-- A fetch loads and records the answer of its key. -/
theorem asks_of_loaded {outcome : Except Crash (Except E V)}
    (hl : Loaded f outcome calls) (htold : m.LoadsTold load calls) :
    (∀ c ∈ calls, m.Asks load c)
      ∧ ∀ result, outcome = .ok result → result = m.answer f.key := by
  have hrecord : ∀ {result outcome more},
      .load f.loader (.ok result) ∈ calls →
      Recorded f.settings f.key (f.codec.writeBack result) outcome more →
      ∀ c ∈ more, m.Asks load c := by
    intro result outcome more hmem hr
    rw [eq_answer_of_mem hf htold hmem, hf.codec_eq] at hr
    exact asks_of_recorded hr fun _ => stands_of_writeBack
  cases hl with
  | recorded hr =>
    refine ⟨List.forall_mem_cons.2 ⟨⟨f.key, hf.loads⟩,
      hrecord List.mem_cons_self hr⟩, ?_⟩
    intro result hout
    rw [← Except.ok.inj hout]
    exact eq_answer_of_mem hf htold List.mem_cons_self
  | unrecorded hr =>
    refine ⟨List.forall_mem_cons.2 ⟨⟨f.key, hf.loads⟩,
      hrecord List.mem_cons_self hr⟩, ?_⟩
    intro result hout
    cases hout
  | crashed c =>
    refine ⟨List.forall_mem_singleton.2 ⟨f.key, hf.loads⟩, ?_⟩
    intro result hout
    cases hout

/-- What a look-up finds is the answer of the key. -/
theorem eq_answer_of_found {answer : Except BackendError (Option Entry)}
    {result : Except E V} (htold : m.Told load (.get f.key answer))
    (hfound : f.codec.found? answer = some result) :
    result = m.answer f.key := by
  rw [hf.codec_eq] at hfound
  rcases answer with e | _ | entry
  · cases hfound
  · cases hfound
  · exact (htold entry rfl).eq_answer hfound

/-- A fetch makes only calls that keep every entry standing for its
key. -/
theorem asks_of_exchange {h : Host S V E L}
    {outcome : Except Crash (Except E V × Origin)}
    (hex : Exchange h f outcome calls) (htold : m.LoadsTold load calls) :
    ∀ c ∈ calls, m.Asks load c := by
  have hfirst : ∀ first, ∀ c ∈ .get f.key first :: f.offers h first,
      m.Asks load c := by
    intro first
    exact List.forall_mem_cons.2 ⟨trivial, asks_of_offers hf first⟩
  cases hex with
  | hit _ => exact hfirst _
  | unlocked _ _ hl =>
    refine List.forall_mem_append.2 ⟨hfirst _, ?_⟩
    refine (asks_of_loaded hf hl ?_).1
    intro loader answer hmem
    exact htold loader answer (List.mem_append_right _ hmem)
  | refused _ _ hl =>
    refine List.forall_mem_append.2 ⟨hfirst _,
      List.forall_mem_cons.2 ⟨trivial, ?_⟩⟩
    refine (asks_of_loaded hf hl ?_).1
    intro loader answer hmem
    exact htold loader answer
      (List.mem_append_right _ (List.mem_cons_of_mem _ hmem))
  | hitAgain _ _ _ =>
    refine List.forall_mem_append.2 ⟨hfirst _, ?_⟩
    exact List.forall_mem_cons.2 ⟨trivial,
      List.forall_mem_cons.2 ⟨trivial,
        List.forall_mem_singleton.2 trivial⟩⟩
  | locked _ _ _ hl =>
    refine List.forall_mem_append.2 ⟨List.forall_mem_append.2 ⟨hfirst _,
      List.forall_mem_cons.2 ⟨trivial,
        List.forall_mem_cons.2 ⟨trivial, ?_⟩⟩⟩,
      List.forall_mem_singleton.2 trivial⟩
    refine (asks_of_loaded hf hl ?_).1
    intro loader answer hmem
    exact htold loader answer (List.mem_append_left _
      (List.mem_append_right _
        (List.mem_cons_of_mem _ (List.mem_cons_of_mem _ hmem))))

/-- A fetch comes to the answer of its key, wherever it found it. -/
theorem eq_answer_of_exchange {h : Host S V E L} {result : Except E V}
    {origin : Origin} (hex : Exchange h f (.ok (result, origin)) calls)
    (htold : ∀ c ∈ calls, m.Told load c) : result = m.answer f.key := by
  rcases hex.found_or_loaded with
    ⟨answer, found, hmem, hfound, hout⟩ | ⟨loaded, more, hl, hmore, hout⟩
  · cases hout
    exact eq_answer_of_found hf (htold _ hmem) hfound
  · cases loaded with
    | error c => cases hout
    | ok answer =>
      cases hout
      refine (asks_of_loaded hf hl ?_).2 _ rfl
      intro loader answer hc
      exact htold _ (hmore hc)

end Fetch

/-! ## Refreshes -/

/-- The result that a refresh carries from its loader to the store. -/
def Carries (answer : Except E V) : RefreshStage V E → Prop
  | .loading _ _ result => result = answer
  | _ => True

section Refresh

variable {r : Refresh V E L} (hr : m.Serves load r.key r.codec r.loader)

include hr

/-- A refresh records the answer of its key. -/
theorem asks_of_freshen {outcome : Except Crash Unit}
    (hrecorded : Recorded r.settings r.key
      (r.codec.freshen (m.answer r.key)) outcome calls) :
    ∀ c ∈ calls, m.Asks load c := by
  rw [hr.codec_eq] at hrecorded
  exact asks_of_recorded hrecorded fun _ => stands_of_freshen

/-- A refresh loads and records the answer of its key. -/
theorem asks_of_reloaded {outcome : Except Crash Unit}
    (hl : Reloaded r outcome calls) (htold : m.LoadsTold load calls) :
    ∀ c ∈ calls, m.Asks load c := by
  cases hl with
  | recorded hrecorded =>
    rw [Except.ok.inj (htold _ _ List.mem_cons_self r.key hr.loads)]
      at hrecorded
    exact List.forall_mem_cons.2 ⟨⟨r.key, hr.loads⟩,
      asks_of_freshen hr hrecorded⟩
  | crashed c => exact List.forall_mem_singleton.2 ⟨r.key, hr.loads⟩

/-- A refresh makes only calls that keep every entry standing for its
key. -/
theorem asks_of_refreshExchange {h : Host S V E L}
    {outcome : Except Crash Unit}
    (hex : RefreshExchange h r outcome calls)
    (htold : m.LoadsTold load calls) : ∀ c ∈ calls, m.Asks load c := by
  cases hex with
  | unlocked _ hl => exact asks_of_reloaded hr hl htold
  | refused _ => exact List.forall_mem_singleton.2 trivial
  | locked _ hl =>
    refine List.forall_mem_append.2 ⟨List.forall_mem_cons.2 ⟨trivial, ?_⟩,
      List.forall_mem_singleton.2 trivial⟩
    refine asks_of_reloaded hr hl ?_
    intro loader answer hmem
    exact htold loader answer
      (List.mem_append_left _ (List.mem_cons_of_mem _ hmem))

/-- So does each step of a refresh, which carries the answer of its
key. -/
theorem asks_of_refreshMove {h : Host S V E L} {stage next : RefreshStage V E}
    (hmove : RefreshMove h r stage next calls)
    (hcarries : Carries (m.answer r.key) stage)
    (htold : m.LoadsTold load calls) :
    (∀ c ∈ calls, m.Asks load c) ∧ Carries (m.answer r.key) next := by
  cases hmove with
  | lockable _ => exact ⟨List.forall_mem_nil _, trivial⟩
  | unlockable _ => exact ⟨List.forall_mem_nil _, trivial⟩
  | granted => exact ⟨List.forall_mem_singleton.2 trivial, trivial⟩
  | refused => exact ⟨List.forall_mem_singleton.2 trivial, trivial⟩
  | lockless _ => exact ⟨List.forall_mem_nil _, trivial⟩
  | loaded locked result =>
    refine ⟨List.forall_mem_singleton.2 ⟨r.key, hr.loads⟩, ?_⟩
    exact Except.ok.inj (htold _ _ List.mem_cons_self r.key hr.loads)
  | crashed locked c =>
    exact ⟨List.forall_mem_cons.2 ⟨⟨r.key, hr.loads⟩, asks_of_released⟩,
      trivial⟩
  | paused locked n result => exact ⟨List.forall_mem_nil _, hcarries⟩
  | recorded locked hrecorded =>
    rw [show _ = m.answer r.key from hcarries] at hrecorded
    exact ⟨List.forall_mem_append.2
      ⟨asks_of_freshen hr hrecorded, asks_of_released⟩, trivial⟩
  | ended => exact ⟨List.forall_mem_nil _, trivial⟩

end Refresh

end Meaning

end PolicyWeave
