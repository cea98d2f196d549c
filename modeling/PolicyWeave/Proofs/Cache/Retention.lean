import Mathlib
import PolicyWeave.Cache.Script
import PolicyWeave.Proofs.Cache.Contents
import PolicyWeave.Proofs.Cache.Locking

/-!
# Outcomes that are kept

An outcome that a fetch has stored is what every later fetch of its key
answers, as long as the entry is let alone.

There are five groups.

* `stores` are the payloads that calls have stored.  A fetch stores at
  most one, and it is the one of the result that it has loaded.
* `Happening` is what may happen on a host: fetches and refreshes, whole
  or step by step, evictions, and changes of the state.  `Host.run` is a
  number of them, with the calls that each has made.
* `Contents.Holds` is the invariant: the payload is held under the key.
  What lets the entry alone keeps it.
* `Fetch.Replays` is what is asked of a fetch for which the payload is
  held.
* `Layer.stored_is_replayed` is the result.  It fails for a fetch that was
  under way when the payload was stored, as `overlapping_fetches` shows.
-/

namespace PolicyWeave

variable {S V E L : Type}

/-! ## What a fetch stores -/

/-- The payloads that calls have stored, each with its key, in order. -/
def stores (calls : List (HostCall V E L)) : List (String × Payload) :=
  calls.filterMap HostCall.stored?

theorem stores_append (calls more : List (HostCall V E L)) :
    stores (calls ++ more) = stores calls ++ stores more :=
  List.filterMap_append

theorem stores_cons {c : HostCall V E L} {put : String × Payload}
    (hc : c.stored? = some put) (calls : List (HostCall V E L)) :
    stores (c :: calls) = put :: stores calls :=
  List.filterMap_cons_some hc

/-- The payload that is recorded about a result. -/
inductive Codec.Writes (codec : Codec V E) :
    Except E V → Payload → Prop where
  | value {value : V} {w : Json} (encoded : codec.encode value = .ok w) :
    Writes codec (.ok value) (.value w)
  | failure {e : E} {cached : CachedError}
      (recorded : codec.toCached? e = some cached) :
    Writes codec (.error e) (.failure cached)

section

variable {h : Host S V E L} {f : Fetch V E L} {key : String}
  {calls last : List (HostCall V E L)}

/-- What is stored for a write-back is what it holds. -/
theorem Written.stores_cases {codec : Codec V E} {result : Except E V}
    {ttl : Duration} (hw : Written key ttl (codec.writeBack result) calls) :
    stores calls = []
      ∨ ∃ payload, stores calls = [(key, payload)]
        ∧ codec.Writes result payload := by
  cases result with
  | ok value =>
    simp only [Codec.writeBack] at hw
    cases hv : codec.encode value with
    | error reason =>
      rw [hv] at hw
      cases hw
      exact .inl rfl
    | ok w =>
      rw [hv] at hw
      cases hw with
      | value _ answer =>
        cases answer with
        | error e => exact .inl rfl
        | ok _ => exact .inr ⟨.value w, rfl, .value hv⟩
  | error e =>
    simp only [Codec.writeBack] at hw
    cases he : codec.toCached? e with
    | none =>
      rw [he] at hw
      cases hw
      exact .inl rfl
    | some cached =>
      rw [he] at hw
      cases hw with
      | failure _ answer =>
        rcases answer with _ | _ | _
        · exact .inl rfl
        · exact .inl rfl
        · exact .inr ⟨.failure cached, rfl, .failure he⟩

/-- Recording a result stores its payload, or nothing. -/
theorem Recorded.stores_cases {settings : CacheSettings}
    {codec : Codec V E} {result : Except E V}
    {outcome : Except Crash Unit}
    (hr : Recorded settings key (codec.writeBack result) outcome calls) :
    stores calls = []
      ∨ ∃ payload, stores calls = [(key, payload)]
        ∧ codec.Writes result payload := by
  cases hr with
  | noDuration _ => exact .inl rfl
  | written _ hw => exact hw.stores_cases

theorem stores_eq_nil (hall : ∀ c ∈ calls, c.stored? = none) :
    stores calls = [] :=
  List.filterMap_eq_nil_iff.2 hall

theorem stores_released (locked : Bool) :
    stores (released locked key : List (HostCall V E L)) = [] := by
  cases locked <;> rfl

/-- A first look-up stores nothing. -/
theorem Fetch.stores_opening
    {first : Except BackendError (Option Entry)} :
    stores (f.opening h first) = [] := by
  refine stores_eq_nil fun c hc => ?_
  rcases Fetch.mem_opening_cases hc with rfl | ⟨_, rfl⟩ <;> rfl

theorem Approach.stores_eq {locked : Bool}
    (ha : Approach h f locked calls) : stores calls = [] := by
  refine stores_eq_nil fun c hc => ?_
  rcases ha.mem_cases hc with ⟨_, rfl⟩ | ⟨_, rfl⟩ | ⟨_, rfl⟩ <;> rfl

theorem Served.stores_eq {result : Except E V}
    (hs : Served h f result calls) : stores calls = [] := by
  refine stores_eq_nil fun c hc => ?_
  rcases hs.mem_cases hc with ⟨_, rfl⟩ | ⟨_, rfl⟩ | rfl | rfl <;> rfl

theorem Deleted.stores_eq (hd : Deleted calls) : stores calls = [] := by
  cases hd <;> rfl

/-- Loading stores the payload of what was loaded, or nothing. -/
theorem Loaded.stores_cases {outcome : Except Crash (Except E V)}
    (hl : Loaded f outcome calls) :
    stores calls = []
      ∨ ∃ result payload, loads calls = [.ok result]
        ∧ stores calls = [(f.key, payload)]
        ∧ f.codec.Writes result payload := by
  have hrecorded {result : Except E V} {outcome : Except Crash Unit}
      {more : List (HostCall V E L)}
      (hr : Recorded f.settings f.key (f.codec.writeBack result) outcome
        more)
      (hcalls : calls = .load f.loader (.ok result) :: more) :
      stores calls = []
        ∨ ∃ result payload, loads calls = [.ok result]
          ∧ stores calls = [(f.key, payload)]
          ∧ f.codec.Writes result payload := by
    subst hcalls
    rcases hr.stores_cases with hnone | ⟨payload, hstores, hwrites⟩
    · exact .inl hnone
    · refine .inr ⟨result, payload, ?_, hstores, hwrites⟩
      exact congrArg (.ok result :: ·) hr.idle.loads_eq
  cases hl with
  | recorded hr => exact hrecorded hr rfl
  | unrecorded hr => exact hrecorded hr rfl
  | crashed c => exact .inl rfl

/-- A fetch stores the payload of what it has loaded, under its key, or
nothing. -/
theorem Exchange.stores_cases
    {populated : Except Crash (Except E V × Origin)}
    (hex : Exchange h f populated calls) (hd : Deleted last) :
    stores (calls ++ last) = []
      ∨ ∃ result payload, loads (calls ++ last) = [.ok result]
        ∧ stores (calls ++ last) = [(f.key, payload)]
        ∧ f.codec.Writes result payload := by
  have hlast : loads last = [] := by
    cases hd <;> rfl
  rw [stores_append, loads_append, hd.stores_eq, hlast, List.append_nil,
    List.append_nil]
  rcases hex.served_or_loaded with
    ⟨result, hserved, -⟩ | ⟨locked, before, more, outcome, happroach,
      hloaded, rfl, -⟩
  · exact .inl hserved.stores_eq
  · rw [stores_append, stores_append, happroach.stores_eq,
      stores_released, loads_append, loads_append,
      happroach.idle.loads_eq, (idle_released locked).loads_eq,
      List.nil_append, List.append_nil, List.nil_append, List.append_nil]
    exact hloaded.stores_cases

/-- A step of a fetch stores the payload of what was loaded before it, or
nothing. -/
theorem FetchMove.stores_cases {stage next : Stage V E}
    (hmove : FetchMove h f stage next calls) :
    stores calls = []
      ∨ ∃ locked result payload, stage = .loading locked 0 result
        ∧ stores calls = [(f.key, payload)]
        ∧ f.codec.Writes result payload := by
  have hrecorded {locked : Bool} {result : Except E V}
      {outcome : Except Crash Unit} {more : List (HostCall V E L)}
      (hr : Recorded f.settings f.key (f.codec.writeBack result) outcome
        more)
      (hstage : stage = .loading locked 0 result)
      (hcalls : calls = more ++ released locked f.key) :
      stores calls = []
        ∨ ∃ locked result payload, stage = .loading locked 0 result
          ∧ stores calls = [(f.key, payload)]
          ∧ f.codec.Writes result payload := by
    rw [hcalls, stores_append, stores_released, List.append_nil]
    rcases hr.stores_cases with hnone | ⟨payload, hstores, hwrites⟩
    · exact .inl hnone
    · exact .inr ⟨locked, result, payload, hstage, hstores, hwrites⟩
  cases hmove with
  | found _ => exact .inl Fetch.stores_opening
  | missed _ => exact .inl Fetch.stores_opening
  | crashed locked c => exact .inl (stores_released locked)
  | recorded locked hr => exact hrecorded hr rfl rfl
  | unrecorded locked hr => exact hrecorded hr rfl rfl
  | evicted hd => exact .inl hd.stores_eq
  | _ => exact .inl rfl

end

/-! ## What may happen -/

/-- Something that happens on a host: a fetch or a refresh is run to its
end, one that is under way makes a step, keys are evicted behind a call,
or the state changes otherwise. -/
inductive Happening (S V E L : Type) where
  | fetch (f : Fetch V E L)
  | refresh (r : Refresh V E L)
  | step (task : Task V E L)
  | evict (method : String) (keys : List String) (result : Except E V)
  | change (g : S → S)

/-- What has happened, in order, with the calls that were made. -/
abbrev History (S V E L : Type) : Type :=
  List (Happening S V E L × List (HostCall V E L))

namespace Happening

/-- The state after something has happened, and the calls it made. -/
def after (h : Host S V E L) (s : S) :
    Happening S V E L → Traced S (HostCall V E L)
  | fetch f => ((Layer.fetch (h.traced id) f).settled ⟨s, []⟩).2
  | refresh r => ((Layer.refresh (h.traced id) r).settled ⟨s, []⟩).2
  | step task => (task.step (h.traced id) ⟨s, []⟩).2
  | evict method keys result =>
    (Layer.evictOnSuccess (h.traced id) method keys result ⟨s, []⟩).2
  | change g => ⟨g s, []⟩

/-- The fetch that is run or makes a step. -/
def fetch? : Happening S V E L → Option (Fetch V E L)
  | fetch f => some f
  | step (.fetch f _) => some f
  | _ => none

/-- Whether the state changes, and no call is made. -/
def isChange : Happening S V E L → Bool
  | change _ => true
  | _ => false

/-- Whether a fetch begins. -/
def begins : Happening S V E L → Bool
  | fetch _ => true
  | step (.fetch _ .lookup) => true
  | _ => false

/-- Whether a fetch has run its loader, or had done so before its step, and
the loader answered a result. -/
def HasLoaded (result : Except E V) (calls : List (HostCall V E L)) :
    Happening S V E L → Prop
  | fetch _ => loads calls = [.ok result]
  | step (.fetch _ stage) => ∃ locked, stage = .loading locked 0 result
  | _ => False

end Happening

/-- Things that happen one after another: their history, and the state
that they lead to. -/
def Host.run (h : Host S V E L) :
    List (Happening S V E L) → S → History S V E L × S
  | [], s => ([], s)
  | x :: rest, s =>
    let t := x.after h s
    let (history, u) := h.run rest t.state
    ((x, t.notes) :: history, u)

section

variable {h : Host S V E L} {x : Happening S V E L} {s : S}

/-- What happens makes its calls, unless the state changes otherwise. -/
theorem Happening.trail (hx : x.isChange = false) :
    h.Trail s (x.after h s).notes (x.after h s).state := by
  cases x with
  | fetch f => exact ((Layer.makes_fetch (h.traced id) f).notes s).2
  | refresh r => exact ((Layer.makes_refresh (h.traced id) r).notes s).2
  | step task =>
    cases task with
    | fetch f stage =>
      exact ((Layer.makes_step (h.traced id) f stage).notes s).2
    | refresh r stage =>
      exact ((Layer.makes_stepRefresh (h.traced id) r stage).notes s).2
  | evict method keys result =>
    exact ((Layer.makes_evictOnSuccess (h.traced id) method keys
      result).notes s).2
  | change g => cases hx

/-- What a fetch stores is the payload of what it has loaded. -/
theorem Happening.stores_cases {f : Fetch V E L}
    (hx : x.fetch? = some f) :
    stores (x.after h s).notes = []
      ∨ ∃ result payload, x.HasLoaded result (x.after h s).notes
        ∧ stores (x.after h s).notes = [(f.key, payload)]
        ∧ f.codec.Writes result payload := by
  cases x with
  | fetch g =>
    cases hx
    obtain ⟨⟨populated, first, last, hex, he, hcalls, -⟩, -⟩ :=
      (Layer.makes_fetch (h.traced id) f).notes s
    have hnotes : ((Happening.fetch f).after h s).notes = first ++ last :=
      hcalls
    rw [hnotes]
    exact hex.stores_cases he.deleted
  | step task =>
    cases task with
    | fetch g stage =>
      cases hx
      obtain ⟨hmove, -⟩ := (Layer.makes_step (h.traced id) f stage).notes s
      rcases hmove.stores_cases with
        hnone | ⟨locked, result, payload, hstage, hrest⟩
      · exact .inl hnone
      · exact .inr ⟨result, payload, ⟨locked, hstage⟩, hrest⟩
    | refresh r stage => cases hx
  | refresh r => cases hx
  | evict method keys result => cases hx
  | change g => cases hx

end

/-! ## What is held -/

/-- Whether a payload is held under a key. -/
def Contents.Holds (contents : Contents) (key : String)
    (payload : Payload) : Prop :=
  ∃ entry, contents key = some entry ∧ entry.payload = payload

/-- A payload that was stored is held if the calls behind it spare its
key. -/
theorem Contents.holds_writesOf {first last : List (HostCall V E L)}
    {c : HostCall V E L} {key : String} {payload : Payload}
    (hstored : c.stored? = some (key, payload))
    (hlast : ∀ d ∈ last, d.Spares key) (contents : Contents) :
    Contents.Holds (writesOf (first ++ c :: last) contents) key
      payload := by
  obtain ⟨entry, hput, hpayload⟩ :=
    HostCall.writes_of_stored? hstored (writesOf first contents)
  refine ⟨entry, ?_, hpayload⟩
  rw [writesOf_append, writesOf_cons, writesOf_spared hlast]
  exact hput

/-- Calls that store nothing under a key and do not remove it. -/
theorem spares_of_stores {calls : List (HostCall V E L)} {key : String}
    (hstores : ∀ payload, (key, payload) ∉ stores calls)
    (hremoved : ∀ c ∈ calls, key ∉ c.removed) :
    ∀ c ∈ calls, c.Spares key := by
  intro c hc
  refine ⟨fun payload heq => hstores payload ?_, hremoved c hc⟩
  exact List.mem_filterMap.2 ⟨c, hc, heq⟩

/-- Whether a fetch stores a payload under its key and does not remove it
again. -/
structure Happening.Stored (h : Host S V E L) (s : S) (f : Fetch V E L)
    (payload : Payload) (x : Happening S V E L) : Prop where
  fetch : x.fetch? = some f
  stored : ∃ first c last, (x.after h s).notes = first ++ c :: last
    ∧ c.stored? = some (f.key, payload) ∧ ∀ d ∈ last, f.key ∉ d.removed

/-- What lets a payload under a key stay, as far as its calls do: every
fetch of the key that can read it, and every change of the state that
keeps it. -/
def Happening.Lets (content : S → Contents) (key : String)
    (payload : Payload) : Happening S V E L → Prop
  | fetch f => f.key = key → ∃ result, f.codec.outcome? payload = some result
  | change g => ∀ s, (content s).Holds key payload →
    (content (g s)).Holds key payload
  | _ => True

/-- What the calls of something that happens must not do for a payload to
stay.  No look-up of its key fails, no delete removes the key, and nothing
is stored under it by a refresh, or by a fetch that was under way. -/
structure Happening.Harmless (key : String) (x : Happening S V E L)
    (calls : List (HostCall V E L)) : Prop where
  found : ∀ e, .get key (.error e) ∉ calls
  undeleted : ∀ c ∈ calls, key ∉ c.removed
  unstored : x.begins = false → ∀ payload, (key, payload) ∉ stores calls

/-- What makes no calls is harmless. -/
theorem Happening.harmless_nil {key : String} {x : Happening S V E L} :
    x.Harmless key [] where
  found _ := List.not_mem_nil
  undeleted := List.forall_mem_nil _
  unstored _ _ := List.not_mem_nil

/-- What is asked of a fetch of a key under which a payload is held.  Its
look-up finds the payload, if it does not fail, and the fetch comes to
the given result.  It makes no other call but to hand a refresh on.  If it
is run step by step then it is done after its first step. -/
structure Fetch.Replays (f : Fetch V E L) (h : Host S V E L) (s : S)
    (payload : Payload) (result : Except E V) : Prop where
  whole :
    let run := (Layer.fetch (h.traced id) f).settled ⟨s, []⟩
    (∀ e, .get f.key (.error e) ∉ run.2.notes) →
      run.1 = .ok result ∧ ∃ entry, entry.payload = payload
        ∧ run.2.notes = .get f.key (.ok (some entry))
          :: f.offers h (.ok (some entry))
  begun :
    let run := Layer.step (h.traced id) f .lookup ⟨s, []⟩
    (∀ e, .get f.key (.error e) ∉ run.2.notes) →
      run.1 = .done result ∧ ∃ entry, entry.payload = payload
        ∧ run.2.notes = .get f.key (.ok (some entry))
          :: f.offers h (.ok (some entry))

section

variable {h : Host S V E L} {content : S → Contents}
  {x : Happening S V E L} {f : Fetch V E L} {key : String}
  {payload : Payload} {s t : S}

/-- A look-up that does not fail finds what is held. -/
theorem Host.Backed.found (hb : h.Backed content)
    {answer : Except BackendError (Option Entry)}
    {rest : List (HostCall V E L)}
    (path : h.Trail s (.get key answer :: rest) t)
    (hfound : ∀ e, .get key (.error e) ∉ .get key answer :: rest) :
    answer = .ok (content s key) := by
  rw [← List.singleton_append] at path
  obtain ⟨_, hget, -⟩ := path.split
  obtain ⟨u, v, hbefore, does, -⟩ := hget.of_singleton
  cases answer with
  | error e => exact absurd List.mem_cons_self (hfound e)
  | ok found =>
    have hu : content u = content s := hb.of_trail hbefore (.inl rfl)
    rw [hb.reads does, hu]

/-- A fetch looks its key up first, and makes no other call if that
serves it. -/
theorem Exchange.eq_opening
    {populated : Except Crash (Except E V × Origin)}
    {calls : List (HostCall V E L)} (hex : Exchange h f populated calls) :
    ∃ first rest, calls = f.opening h first ++ rest
      ∧ ∀ result, f.codec.found? first = some result →
        rest = [] ∧ populated = .ok (result, .cached) := by
  have hmiss {first : Except BackendError (Option Entry)}
      {rest : List (HostCall V E L)}
      (missed : f.codec.found? first = none) (result : Except E V)
      (hfound : f.codec.found? first = some result) :
      rest = [] ∧ populated = .ok (result, .cached) := by
    rw [missed] at hfound
    cases hfound
  cases hex with
  | @hit first result found =>
    refine ⟨first, [], (List.append_nil _).symm, ?_⟩
    intro other hother
    rw [found] at hother
    cases hother
    exact ⟨rfl, rfl⟩
  | unlocked missed _ _ => exact ⟨_, _, rfl, hmiss missed⟩
  | refused missed _ _ => exact ⟨_, _, rfl, hmiss missed⟩
  | hitAgain missed _ _ => exact ⟨_, _, rfl, hmiss missed⟩
  | locked missed _ _ _ =>
    exact ⟨_, _, List.append_assoc .., hmiss missed⟩

/-- A fetch replays a payload that is held under its key. -/
theorem Fetch.replays (hb : h.Backed content)
    (hs : (content s).Holds f.key payload) {result : Except E V}
    (hread : f.codec.outcome? payload = some result) :
    f.Replays h s payload result := by
  obtain ⟨entry, hentry, hpayload⟩ := hs
  have hfound : f.codec.found? (.ok (content s f.key)) = some result := by
    rw [hentry, ← hread, ← hpayload]
    rfl
  constructor
  case whole =>
    intro run hseen
    obtain ⟨⟨populated, calls, last, hex, he, hcalls, hout⟩, path⟩ :=
      (Layer.makes_fetch (h.traced id) f).notes s
    obtain ⟨first, rest, hfirst, hserved⟩ := hex.of_traced.eq_opening
    have hnotes : run.2.notes = f.opening h first ++ rest ++ last := by
      rw [← hfirst]
      exact hcalls
    have path' : h.Trail s (f.opening h first ++ rest ++ last)
        run.2.state := hnotes ▸ path
    rw [hnotes] at hseen
    have hlook : first = .ok (content s f.key) := hb.found path' hseen
    obtain ⟨hrest, hpopulated⟩ := hserved result (hlook ▸ hfound)
    rw [hpopulated] at he hout
    cases he
    refine ⟨hout, entry, hpayload, ?_⟩
    rw [hnotes, hrest, hlook, hentry, List.append_nil, List.append_nil]
    rfl
  case begun =>
    intro run hseen
    obtain ⟨hmove, path⟩ :=
      (Layer.makes_step (h.traced id) f .lookup).notes s
    have hlook {first : Except BackendError (Option Entry)}
        (hnotes : run.2.notes = .get f.key first
          :: f.offers (h.traced id) first) :
        first = .ok (content s f.key) := by
      have path' : h.Trail s (.get f.key first
          :: f.offers (h.traced id) first) run.2.state := hnotes ▸ path
      rw [hnotes] at hseen
      exact hb.found path' hseen
    generalize hnext : run.1 = next
    generalize hnotes : run.2.notes = calls at hlook
    have hmove' : FetchMove (h.traced id) f .lookup next calls := by
      rw [← hnext, ← hnotes]
      exact hmove
    cases hmove' with
    | @found first result' hfirst =>
      obtain rfl := hlook rfl
      rw [hfound] at hfirst
      cases hfirst
      refine ⟨rfl, entry, hpayload, ?_⟩
      rw [Fetch.offers_traced, hentry]
    | missed hfirst =>
      obtain rfl := hlook rfl
      rw [hfound] at hfirst
      cases hfirst

/-- A fetch that stores a payload has loaded its result. -/
theorem Happening.Stored.writes (hx : x.Stored h s f payload) :
    stores (x.after h s).notes = [(f.key, payload)]
      ∧ ∃ result, x.HasLoaded result (x.after h s).notes
        ∧ f.codec.Writes result payload := by
  obtain ⟨first, c, last, hnotes, hstored, -⟩ := hx.stored
  have hmem : (f.key, payload) ∈ stores (x.after h s).notes := by
    refine List.mem_filterMap.2 ⟨c, ?_, hstored⟩
    rw [hnotes]
    exact List.mem_append_right _ List.mem_cons_self
  rcases x.stores_cases (h := h) (s := s) hx.fetch with
    hnone | ⟨result, other, hloaded, hstores, hwrites⟩
  · rw [hnone] at hmem
    cases hmem
  · rw [hstores] at hmem ⊢
    cases List.mem_singleton.1 hmem
    exact ⟨rfl, result, hloaded, hwrites⟩

/-- What a fetch has stored is held behind it. -/
theorem Happening.Stored.holds (hb : h.Backed content)
    (ha : h.Apart content) (hx : x.Stored h s f payload) :
    (content (x.after h s).state).Holds f.key payload := by
  obtain ⟨first, c, last, hnotes, hstored, hremoved⟩ := hx.stored
  have hchange : x.isChange = false := by
    have hfetch := hx.fetch
    cases x <;> first | rfl | cases hfetch
  have hlast : stores last = [] := by
    have hone := hx.writes.1
    rw [hnotes, stores_append, stores_cons hstored] at hone
    have hlength := congrArg List.length hone
    rw [List.length_append, List.length_cons, List.length_singleton]
      at hlength
    exact List.eq_nil_of_length_eq_zero (by omega)
  rw [hb.of_trail (x.trail hchange) (.inr ha), hnotes]
  refine Contents.holds_writesOf hstored (spares_of_stores ?_ hremoved) _
  rw [hlast]
  exact fun _ => List.not_mem_nil

/-- What happens keeps a payload that is held, if its calls are
harmless. -/
theorem Happening.keeps (hb : h.Backed content) (ha : h.Apart content)
    (hlets : x.Lets content key payload)
    (hharmless : x.Harmless key (x.after h s).notes)
    (hs : (content s).Holds key payload) :
    (content (x.after h s).state).Holds key payload := by
  have hkept (hchange : x.isChange = false)
      (hstores : ∀ other, (key, other) ∉ stores (x.after h s).notes) :
      (content (x.after h s).state).Holds key payload := by
    have hspares := spares_of_stores hstores hharmless.undeleted
    have hsame := hb.spared ha (x.trail hchange) hspares
    obtain ⟨entry, hentry, hpayload⟩ := hs
    exact ⟨entry, hsame.trans hentry, hpayload⟩
  have hother {g : Fetch V E L} (hx : x.fetch? = some g)
      (hkey : g.key ≠ key) (other : Payload) :
      (key, other) ∉ stores (x.after h s).notes := by
    rcases x.stores_cases (h := h) (s := s) hx with
      hnone | ⟨_, _, _, hstores, _⟩
    · rw [hnone]
      exact List.not_mem_nil
    · rw [hstores]
      intro hmem
      cases List.mem_singleton.1 hmem
      exact hkey rfl
  cases x with
  | fetch g =>
    refine hkept rfl ?_
    by_cases hkey : g.key = key
    · subst hkey
      obtain ⟨result, hread⟩ := hlets rfl
      obtain ⟨-, entry, -, hnotes⟩ :=
        (g.replays hb hs hread).whole hharmless.found
      have hnone : stores ((fetch g).after h s).notes = [] := by
        show stores ((Layer.fetch (h.traced id) g).settled ⟨s, []⟩).2.notes
          = []
        rw [hnotes]
        exact Fetch.stores_opening
      rw [hnone]
      exact fun _ => List.not_mem_nil
    · exact hother rfl hkey
  | refresh r =>
    exact hkept rfl (hharmless.unstored rfl)
  | step task =>
    refine hkept rfl ?_
    cases hbegins : Happening.begins (.step task : Happening S V E L) with
    | false => exact hharmless.unstored hbegins
    | true =>
      cases task with
      | refresh r stage => cases hbegins
      | fetch g stage =>
        obtain rfl : stage = .lookup := by
          cases stage <;> first | rfl | cases hbegins
        rcases Happening.stores_cases (h := h) (s := s)
          (x := .step (.fetch g .lookup)) rfl with
          hnone | ⟨_, _, ⟨_, hstage⟩, _⟩
        · rw [hnone]
          exact fun _ => List.not_mem_nil
        · cases hstage
  | evict method keys result =>
    exact hkept rfl (hharmless.unstored rfl)
  | change g => exact hlets s hs

/-- Things that happen one after another keep a payload that is held, if
the calls of each are harmless. -/
theorem Host.run_keeps (hb : h.Backed content) (ha : h.Apart content) :
    ∀ {between : List (Happening S V E L)} {s : S},
      (∀ x ∈ between, x.Lets content key payload) →
      (∀ note ∈ (h.run between s).1, note.1.Harmless key note.2) →
      (content s).Holds key payload →
      (content (h.run between s).2).Holds key payload := by
  intro between
  induction between with
  | nil => exact fun _ _ hs => hs
  | cons x rest ih =>
    intro s hlets hharmless hs
    have hlets' := List.forall_mem_cons.1 hlets
    have hharmless' := List.forall_mem_cons.1 hharmless
    exact ih hlets'.2 hharmless'.2 (x.keeps hb ha hlets'.1 hharmless'.1 hs)

end

/-! ## Changes of a world -/

/-- A change that leaves the contents alone lets every payload stay. -/
theorem Happening.lets_of_contents {content : S → Contents} {g : S → S}
    (hg : ∀ s, content (g s) = content s) (key : String)
    (payload : Payload) :
    (Happening.change g : Happening S V E L).Lets content key payload := by
  intro s hs
  rw [hg]
  exact hs

/-- An entry that ages keeps its payload. -/
theorem World.lets_age {X : Type} (other : String) (remaining : Duration)
    (key : String) (payload : Payload) :
    (Happening.change fun w : World V E L X =>
        { w with store := (w.store.age other remaining).2 }
      : Happening (World V E L X) V E L).Lets World.contents key
        payload := by
  rintro w ⟨entry, hentry, hpayload⟩
  show Contents.Holds (Store.entry? (w.store.age other remaining).2) key
    payload
  unfold Store.age
  cases hother : w.store.entry? other with
  | none => exact ⟨entry, hentry, hpayload⟩
  | some e =>
    dsimp only
    rw [Store.entry?_put]
    by_cases hkey : key = other
    · subst hkey
      obtain rfl : e = entry := Option.some.inj (hother.symm.trans hentry)
      exact ⟨_, Function.update_self .., hpayload⟩
    · refine ⟨entry, ?_, hpayload⟩
      rw [Function.update_of_ne hkey]
      exact hentry

/-! ## The result -/

/-- What a fetch has stored is replayed, on every layer over a world whose
locker and loaders leave the store alone.

The payload is the one of the result that the fetch has loaded.  It may
be followed by whatever lets it stay: fetches and refreshes of any keys,
whole or step by step, evictions, and entries that age, with whatever
fails on the way.  Then every fetch of the key that can read the payload
comes to the result that the payload stands for, and makes no other call
than a look-up, behind which it may hand a refresh on.

The payload stays unless a look-up of the key fails, a delete removes the
key, a refresh stores something new under it, or a fetch of the key that
was under way when the payload was stored does so.  Fetches that are run
one after another are never under way, and a fetch that begins later is
done before it could store. -/
theorem Layer.stored_is_replayed {X : Type} {c : Wiring}
    (hplain : c.locker.Plain)
    {load : L → Act (World V E L X) (Except E V)}
    (hload : ∀ loader w, ((load loader).settled w).2.store = w.store)
    (pauses : L → Nat) {x : Happening (World V E L X) V E L}
    {w : World V E L X} {f : Fetch V E L} {payload : Payload}
    (hx : x.Stored (c.host load pauses) w f payload) :
    let h := c.host load pauses
    let stored := x.after h w
    (∃ result, x.HasLoaded result stored.notes
        ∧ f.codec.Writes result payload)
      ∧ ∀ between : List (Happening (World V E L X) V E L),
        (∀ y ∈ between, y.Lets World.contents f.key payload) →
        (∀ note ∈ (h.run between stored.state).1,
          note.1.Harmless f.key note.2) →
        ∀ (later : Fetch V E L) (result : Except E V), later.key = f.key →
          later.codec.outcome? payload = some result →
          later.Replays h (h.run between stored.state).2 payload
            result := by
  have hbacked := c.backed hplain load pauses
  have hapart : (c.host load pauses).Apart World.contents := by
    intro loader w
    exact congrArg Store.entry? (hload loader w)
  refine ⟨hx.writes.2, ?_⟩
  intro between hlets hharmless later result hkey hread
  have hheld := Host.run_keeps hbacked hapart hlets hharmless
    (hx.holds hbacked hapart)
  rw [← hkey] at hheld
  exact later.replays hbacked hheld hread

/-- A fetch of one key, whose loader pauses once and answers a number. -/
def Fetch.counting (n : Nat) : Fetch Nat String (Script Nat String) where
  settings := ⟨"C.m", .ofMilliseconds 300000, Number.Binary.zero,
    Number.Binary.zero⟩
  key := "k"
  codec := ⟨fun n => .ok (.ofNat n), Json.nat?, fun _ => none,
    fun e => e.message⟩
  loader := ⟨n, .ok n, [], 1⟩
  evicts := none

/-- A stored number is replayed by a fetch with another loader, after its
entry has aged, deletes have begun to fail, and one of its key has
failed. -/
theorem Layer.stored_is_replayed_counting :
    let h : Host (World Nat String (Script Nat String) (List Nat))
        Nat String (Script Nat String) :=
      Wiring.host ⟨.none, .none⟩ Script.run Script.pauses
    let x : Happening _ Nat String (Script Nat String) :=
      .fetch (.counting 1)
    let stored := x.after h (World.initial [])
    let between : List (Happening _ Nat String (Script Nat String)) :=
      [.change fun w =>
          { w with store := (w.store.age "k" (.ofMilliseconds 1)).2 },
        .change (World.applySwitches ⟨none, none, some true, none, none⟩),
        .evict "C.m" ["k"] (.ok 0)]
    x.Stored h (World.initial []) (.counting 1) (.value (.ofNat 1))
      ∧ (∀ y ∈ between, y.Lets World.contents "k" (.value (.ofNat 1)))
      ∧ (∀ note ∈ (h.run between stored.state).1,
          note.1.Harmless "k" note.2)
      ∧ (Fetch.counting 2).Replays h (h.run between stored.state).2
        (.value (.ofNat 1)) (.ok 1) := by
  intro h x stored between
  have hstored : x.Stored h (World.initial []) (.counting 1)
      (.value (.ofNat 1)) := by
    refine ⟨rfl, [.get "k" (.ok none),
      .load (Fetch.counting 1).loader (.ok (.ok 1)), .draw 0],
      .set "k" (.ofNat 1) (.ofMilliseconds 300000) (.ok ()), [], rfl, rfl,
      List.forall_mem_nil _⟩
  have hlets : ∀ y ∈ between,
      y.Lets World.contents "k" (.value (.ofNat 1)) := by
    refine List.forall_mem_cons.2 ⟨World.lets_age _ _ _ _, ?_⟩
    refine List.forall_mem_cons.2 ⟨?_, ?_⟩
    · refine Happening.lets_of_contents ?_ _ _
      exact fun _ => rfl
    · exact List.forall_mem_singleton.2 trivial
  have hharmless : ∀ note ∈ (h.run between stored.state).1,
      note.1.Harmless "k" note.2 := by
    refine List.forall_mem_cons.2 ⟨Happening.harmless_nil, ?_⟩
    refine List.forall_mem_cons.2 ⟨Happening.harmless_nil, ?_⟩
    refine List.forall_mem_singleton.2 ⟨?_, ?_, ?_⟩
    · intro e hmem
      cases List.mem_singleton.1 hmem
    · exact List.forall_mem_singleton.2 List.not_mem_nil
    · exact fun _ _ => List.not_mem_nil
  refine ⟨hstored, hlets, hharmless, ?_⟩
  exact (stored_is_replayed (c := ⟨.none, .none⟩) trivial
    (fun _ _ => rfl) Script.pauses hstored).2 between hlets hharmless
    (.counting 2) (.ok 1) rfl rfl

/-- Of two fetches of a key that are under way together, both load and
store their result.  A later fetch answers what was stored last, although
the other result was stored as well, no look-up has failed, and nothing
was deleted or refreshed. -/
theorem Layer.overlapping_fetches :
    let h : Host (World Nat String (Script Nat String) (List Nat))
        Nat String (Script Nat String) :=
      Wiring.host ⟨.none, .none⟩ Script.run Script.pauses
    let both := (concurrent (h.traced id) (Pure.pure ())
      [.counting 1, .counting 2]).settled ⟨World.initial [], []⟩
    let later := (fetch (h.traced id) (.counting 3)).settled
      ⟨both.2.state, []⟩
    both.1 = .ok [.ok 1, .ok 2]
      ∧ both.2.notes = [.get "k" (.ok none),
        .load (Fetch.counting 1).loader (.ok (.ok 1)),
        .get "k" (.ok none),
        .load (Fetch.counting 2).loader (.ok (.ok 2)),
        .draw 0,
        .set "k" (.ofNat 1) (.ofMilliseconds 300000) (.ok ()),
        .draw 0,
        .set "k" (.ofNat 2) (.ofMilliseconds 300000) (.ok ())]
      ∧ (Fetch.counting 3).codec.outcome? (.value (.ofNat 1))
        = some (.ok 1)
      ∧ later.1 = .ok (.ok 2) ∧ later.1 ≠ .ok (.ok 1) := by
  -- running both leaves only that two numbers differ
  cbv
  intro heq
  cases heq

end PolicyWeave
