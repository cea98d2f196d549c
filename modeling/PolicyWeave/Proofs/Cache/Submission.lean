import PolicyWeave.Cache.Script
import PolicyWeave.Proofs.Cache.Eviction
import PolicyWeave.Proofs.Cache.Matching

/-!
# Refreshes and their callers

A fetch that hands a refresh on has found an entry near its end.  If the
entry reads back, it serves the caller, and the loader runs in the refresh
alone.  If it does not read back, the fetch goes on as after a miss, and
the loader may run twice for one request.

There are two groups.

* `CacheSettings.Serving` asks of settings and a codec that every entry
  near its end reads back, and `Doubled` are calls that both hand a
  refresh on and load.
* `Layer.serving_iff_not_doubled` is the result: the settings and codecs
  whose fetches are never doubled are the serving ones.
-/

namespace PolicyWeave

variable {S V E L : Type}

/-! ## Calls that hand on and load -/

/-- Whether every entry that settings find near its end reads back. -/
def CacheSettings.Serving (settings : CacheSettings) (codec : Codec V E) :
    Prop :=
  ∀ entry : Entry, settings.shouldRefresh entry = true →
    (codec.outcome? entry.payload).isSome

/-- Calls that hand a refresh on, and run a loader too. -/
def Doubled (calls : List (HostCall V E L)) : Prop :=
  (∃ r, .submit r ∈ calls) ∧ loads calls ≠ []

section

variable {h : Host S V E L} {f : Fetch V E L}
  {calls : List (HostCall V E L)}

/-- What a first look-up hands on is the refresh of the fetch, for an
entry near its end. -/
theorem Fetch.of_mem_offers {r : Refresh V E L}
    {first : Except BackendError (Option Entry)}
    (hmem : .submit r ∈ f.offers h first) :
    r = ⟨f.settings, f.key, f.codec, f.loader⟩
      ∧ ∃ entry, first = .ok (some entry)
        ∧ f.settings.shouldRefresh entry = true := by
  rcases first with e | _ | entry
  · cases hmem
  · cases hmem
  · unfold Fetch.offers at hmem
    dsimp only at hmem
    split at hmem
    · rename_i hoffers
      rw [List.mem_singleton] at hmem
      injection hmem with hr
      exact ⟨hr, entry, rfl, (Bool.and_eq_true_iff.1 hoffers).2⟩
    · cases hmem

theorem Loaded.submit_notMem {outcome : Except Crash (Except E V)}
    (hl : Loaded f outcome calls) (r : Refresh V E L) :
    .submit r ∉ calls := by
  have hrecorded {wb : WriteBack} {outcome : Except Crash Unit}
      {more : List (HostCall V E L)}
      (hr : Recorded f.settings f.key wb outcome more) :
      HostCall.submit r ∉ more := by
    intro hmem
    rcases hr.mem_cases hmem with ⟨_, h⟩ | ⟨_, _, _, h⟩ | ⟨_, _, _, h⟩
    all_goals cases h
  intro hmem
  cases hl with
  | recorded hr => exact hrecorded hr (by simpa using hmem)
  | unrecorded hr => exact hrecorded hr (by simpa using hmem)
  | crashed c => simp at hmem

/-- A fetch that hands a refresh on does so behind its first look-up.  If
that finds something, the fetch is served and loads nothing. -/
theorem Exchange.of_mem_submit
    {populated : Except Crash (Except E V × Origin)}
    (hex : Exchange h f populated calls) {r : Refresh V E L}
    (hmem : .submit r ∈ calls) :
    ∃ first, .submit r ∈ f.offers h first
      ∧ calls.head? = some (.get f.key first)
      ∧ ∀ result, f.codec.found? first = some result →
        loads calls = [] ∧ populated = .ok (result, .cached) := by
  cases hex with
  | @hit first result found =>
    refine ⟨first, by simpa using hmem, rfl, ?_⟩
    intro other hother
    rw [found] at hother
    cases hother
    have hserved : Served h f result (f.opening h first) := .hit found
    exact ⟨hserved.idle.loads_eq, rfl⟩
  | @unlocked first outcome more missed _ loaded =>
    have hnot := loaded.submit_notMem r
    refine ⟨first, ?_, rfl,
      fun _ found => nomatch missed.symm.trans found⟩
    simpa [hnot] using hmem
  | @refused first outcome more missed _ loaded =>
    have hnot := loaded.submit_notMem r
    refine ⟨first, ?_, rfl,
      fun _ found => nomatch missed.symm.trans found⟩
    simpa [hnot] using hmem
  | @hitAgain first again result missed _ found =>
    refine ⟨first, ?_, rfl,
      fun _ found => nomatch missed.symm.trans found⟩
    simpa using hmem
  | @locked first again outcome more missed _ _ loaded =>
    have hnot := loaded.submit_notMem r
    refine ⟨first, ?_, rfl,
      fun _ found => nomatch missed.symm.trans found⟩
    simpa [hnot] using hmem

end

namespace Fetch

/-- What it takes that a fetch hands a refresh on: its own, for an entry
near its end that it looked up first.  If the entry reads back, it is what
the caller is served, and nothing is loaded. -/
structure HandsOn (f : Fetch V E L) (r : Refresh V E L)
    (outcome : Except Crash (Except E V)) (calls : List (HostCall V E L))
    (entry : Entry) : Prop where
  own : r = ⟨f.settings, f.key, f.codec, f.loader⟩
  first : calls.head? = some (.get f.key (.ok (some entry)))
  near : f.settings.shouldRefresh entry = true
  served : ∀ result, f.codec.outcome? entry.payload = some result →
    outcome = .ok result ∧ loads calls = []

theorem exists_handsOn (h : Host S V E L) (f : Fetch V E L) (s : S)
    {r : Refresh V E L} :
    let run := (Layer.fetch (h.traced id) f).settled ⟨s, []⟩
    .submit r ∈ run.2.notes →
      ∃ entry, f.HandsOn r run.1 run.2.notes entry := by
  intro run hmem
  obtain ⟨⟨populated, calls, last, hex, he, hcalls, hout⟩, -⟩ :=
    (Layer.makes_fetch (h.traced id) f).notes s
  have hnotes : run.2.notes = calls ++ last := hcalls
  have houtcome : run.1 = populated.map Prod.fst := hout
  rw [hnotes] at hmem ⊢
  rw [houtcome]
  have hcall : .submit r ∈ calls := by
    rcases List.mem_append.1 hmem with hmem | hmem
    · exact hmem
    · cases he.deleted <;> simp at hmem
  obtain ⟨first, hoffers, hhead, hserved⟩ := hex.of_mem_submit hcall
  obtain ⟨hown, entry, rfl, hnear⟩ := Fetch.of_mem_offers hoffers
  refine ⟨entry, hown, ?_, hnear, ?_⟩
  · rw [List.head?_append, hhead]
    rfl
  · intro result hresult
    obtain ⟨hloads, rfl⟩ := hserved result hresult
    rw [(f.batches_eq hex he).2]
    exact ⟨rfl, hloads⟩

end Fetch

/-! ## Entries that do not read back -/

/-- A host with an executor and without a locker that has one entry under
every key and whose loaders crash. -/
def Host.stale (entry : Entry) : Host Unit V E Unit where
  get _ := return .ok (some entry)
  set _ _ _ := return .ok ()
  setError _ _ _ := return .ok true
  delete _ := return .ok ()
  lock? := none
  release _ := return
  submit? := some fun _ => return
  load _ := throw .noDuration
  pauses _ := 0
  draw := return 0
  report _ := return

/-- A fetch with some settings and a codec. -/
def Fetch.plain (settings : CacheSettings) (codec : Codec V E) :
    Fetch V E Unit :=
  ⟨settings, "k", codec, (), none⟩

/-- On an entry near its end that does not read back, a fetch hands a
refresh on and loads. -/
theorem Layer.doubled_stale {settings : CacheSettings} {codec : Codec V E}
    {entry : Entry} (hnear : settings.shouldRefresh entry = true)
    (hnone : codec.outcome? entry.payload = none) :
    let run := (fetch ((Host.stale entry).traced id)
      (.plain settings codec)).settled ⟨(), []⟩
    Doubled run.2.notes := by
  intro run
  obtain ⟨⟨populated, calls, last, hex, he, hcalls, -⟩, path⟩ :=
    (makes_fetch ((Host.stale entry).traced id)
      (.plain settings codec)).notes ()
  have hnotes : run.2.notes = calls ++ last := hcalls
  have hget {first : Except BackendError (Option Entry)}
      (hmem : .get "k" first ∈ calls) : first = .ok (some entry) := by
    obtain ⟨_, _, does⟩ :=
      path.does_of_mem (hcalls ▸ List.mem_append_left last hmem)
    cases does
    rfl
  rw [hnotes]
  cases hex.of_traced with
  | @hit first result found =>
    obtain rfl := hget List.mem_cons_self
    cases hnone.symm.trans found
  | @unlocked first outcome more _ _ loaded =>
    obtain rfl := hget List.mem_cons_self
    have hoffers : (Fetch.plain settings codec).offers (Host.stale entry)
        (.ok (some entry)) = [.submit ⟨settings, "k", codec, ()⟩] := by
      simp [Fetch.offers, Fetch.plain, Host.stale, hnear]
    obtain ⟨-, answer, hloads, -⟩ := loaded.loads_eq
    rw [hoffers]
    refine ⟨⟨⟨settings, "k", codec, ()⟩, by simp⟩, ?_⟩
    rw [loads_append, loads_append, hloads]
    simp
  | refused _ lockable _ => cases lockable
  | hitAgain _ lockable _ => cases lockable
  | locked _ lockable _ _ => cases lockable

/-! ## The result -/

/-- A refresh is handed on beside a loader that runs exactly where entries
near their end may fail to read back.  With some settings and a codec no
fetch does both, on any host, if and only if every entry that the settings
find near its end reads back.  With any, a fetch hands on no refresh but
its own, for an entry near its end that its first look-up found; if that
reads back it is the answer and nothing is loaded. -/
theorem Layer.serving_iff_not_doubled (settings : CacheSettings)
    (codec : Codec V E) :
    (settings.Serving codec ↔
      ∀ (S L : Type) (h : Host S V E L) (f : Fetch V E L) (s : S),
        f.settings = settings → f.codec = codec →
        let run := (fetch (h.traced id) f).settled ⟨s, []⟩
        ¬ Doubled run.2.notes)
      ∧ ∀ (S L : Type) (h : Host S V E L) (f : Fetch V E L) (s : S)
          (r : Refresh V E L),
          let run := (fetch (h.traced id) f).settled ⟨s, []⟩
          .submit r ∈ run.2.notes →
            ∃ entry, f.HandsOn r run.1 run.2.notes entry := by
  refine ⟨⟨?_, ?_⟩, fun _ _ h f s _ => f.exists_handsOn h s⟩
  · rintro hserving S L h f s rfl rfl run ⟨⟨r, hsubmit⟩, hloads⟩
    obtain ⟨entry, hentry⟩ := f.exists_handsOn h s hsubmit
    obtain ⟨result, hresult⟩ :=
      Option.isSome_iff_exists.1 (hserving entry hentry.near)
    exact hloads (hentry.served result hresult).2
  · intro hall entry hnear
    cases hresult : codec.outcome? entry.payload with
    | some result => rfl
    | none =>
      have hnot := hall Unit Unit (Host.stale entry) (.plain settings codec)
        () rfl rfl
      exact absurd (doubled_stale hnear hresult) hnot

/-! ## An entry that does not read back -/

/-- A world whose store holds a text under one key, which has one of its
hundred seconds left. -/
def World.garbled : World Nat String (Script Nat String) (List Nat) :=
  { World.initial [] with
    store := Store.empty.put "k"
      ⟨.value (.string "x"), .ofMilliseconds 100000,
        .ofMilliseconds 1000⟩ }

/-- A fetch of that key that reads numbers, and refreshes what has less
than half of its time left. -/
def Fetch.numeric : Fetch Nat String (Script Nat String) where
  settings :=
    ⟨"C.m", .ofMilliseconds 100000, Number.Binary.zero,
      Number.Format.double.ofNat 50⟩
  key := "k"
  codec := ⟨fun n => .ok (.ofNat n), Json.nat?, fun _ => none,
    fun e => e.message⟩
  loader := ⟨0, .ok 1, [], 0⟩
  evicts := none

/-- The fetch answers what its loader does, and leaves a refresh behind
that will run the same loader again. -/
theorem Layer.fetch_numeric :
    let host : Host (World Nat String (Script Nat String) (List Nat))
        Nat String (Script Nat String) :=
      Wiring.host ⟨.none, .queued⟩ Script.run Script.pauses
    let run := (fetch (host.traced id) Fetch.numeric).settled
      ⟨World.garbled, []⟩
    run.2.state.submitted = 1 ∧ run.2.state.base = [0]
      ∧ Doubled run.2.notes := by
  intro host run
  have hcalls : run.2.notes.any HostCall.isSubmit = true
      ∧ (loads run.2.notes).length = 1 ∧ run.2.state.submitted = 1
      ∧ run.2.state.base = [0] := by
    decide +kernel
  obtain ⟨hsubmit, hloads, hsubmitted, hbase⟩ := hcalls
  refine ⟨hsubmitted, hbase, ?_, ?_⟩
  · obtain ⟨c, hmem, hc⟩ := List.any_eq_true.1 hsubmit
    cases c with
    | submit r => exact ⟨r, hmem⟩
    | _ => cases hc
  · intro hnil
    rw [hnil] at hloads
    cases hloads

end PolicyWeave
