import PolicyWeave.Config.Error
import PolicyWeave.Proofs.Duration.Decimal

/-!
# The unit of a duration text

A duration is written as a number of the largest unit that divides its
milliseconds.  Since such a text has no point, reading it is exact as far as
doubles count without gaps.

* `Duration.TimeUnit.IsLargest` says which unit that is, and
  `Duration.TimeUnit.isLargest_iff` that there is one for every number of
  milliseconds.
* `Duration.format_eq_iff` takes a text apart into its number and its unit.
* `Duration.format_exact`: what is written, and that it is read back.
-/

namespace PolicyWeave

open Number

namespace Duration

/-! ## The largest unit -/

namespace TimeUnit

variable {u v : TimeUnit} {ms : Nat}

/-- Whether a unit is the largest that divides a number of milliseconds.
Every unit divides zero, which is counted in milliseconds. -/
structure IsLargest (u : TimeUnit) (ms : Nat) : Prop where
  dvd : u.size ∣ ms
  greatest : ms ≠ 0 → ∀ v : TimeUnit, v.size ∣ ms → v.size ≤ u.size
  zero : ms = 0 → u = .millisecond

theorem mem_descending (u : TimeUnit) : u ∈ descending := by
  cases u <;> decide

theorem pairwise_descending :
    descending.Pairwise fun u v => v.size ≤ u.size := by
  decide

theorem size_inj : u.size = v.size ↔ u = v := by
  cases u <;> cases v <;> decide

theorem symbol_inj : u.symbol = v.symbol ↔ u = v := by
  refine ⟨fun h => ?_, congrArg symbol⟩
  have hu := ofSymbol?_symbol u
  rw [h, ofSymbol?_symbol v] at hu
  exact (Option.some.inj hu).symm

theorem IsLargest.unique (hu : u.IsLargest ms) (hv : v.IsLargest ms) :
    u = v := by
  by_cases hzero : ms = 0
  · rw [hu.zero hzero, hv.zero hzero]
  · exact size_inj.mp (Nat.le_antisymm (hv.greatest hzero u hu.dvd)
      (hu.greatest hzero v hv.dvd))

/-- The units are tried from the largest down, so the first that divides is
the largest. -/
theorem isLargest_largestUnit (ms : Nat) : (largestUnit ms).IsLargest ms := by
  refine ⟨size_largestUnit_dvd ms, fun hne v hv => ?_, ?_⟩
  · cases hfind : descending.find? fun u => ms % u.size == 0 with
    | none =>
      have hno := List.find?_eq_none.mp hfind v (mem_descending v)
      exact absurd (beq_iff_eq.mpr (Nat.mod_eq_zero_of_dvd hv)) hno
    | some u =>
      have hu : largestUnit ms = u := by simp [largestUnit, hne, hfind]
      obtain ⟨-, front, back, hunits, hfront⟩ :=
        List.find?_eq_some_iff_append.mp hfind
      have hmem : v ∈ front ++ u :: back := hunits ▸ mem_descending v
      have horder := hunits ▸ pairwise_descending
      rw [hu]
      rcases List.mem_append.mp hmem with hmem | hmem
      · simpa [Nat.mod_eq_zero_of_dvd hv] using hfront v hmem
      · rcases List.mem_cons.mp hmem with rfl | hmem
        · exact Nat.le_refl _
        · exact List.rel_of_pairwise_cons (List.pairwise_append.mp horder).2.1
            hmem
  · rintro rfl
    rfl

theorem isLargest_iff : u.IsLargest ms ↔ largestUnit ms = u :=
  ⟨(isLargest_largestUnit ms).unique, fun h => h ▸ isLargest_largestUnit ms⟩

theorem head_symbol (u : TimeUnit) :
    ∀ c ∈ u.symbol.toList.head?, c.isDigit = false := by
  cases u <;> simp [symbol]

end TimeUnit

/-! ## Texts -/

/-- The digits of a text end where its symbol begins. -/
theorem natText_symbol_inj {m n : Nat} {u v : TimeUnit} :
    natText m ++ u.symbol = natText n ++ v.symbol ↔ m = n ∧ u = v := by
  refine ⟨fun h => ?_, fun ⟨hn, hu⟩ => by rw [hn, hu]⟩
  have hcut (k : Nat) (w : TimeUnit) :
      spanDigits (natText k ++ w.symbol).toList
        = (digitChars k, w.symbol.toList) := by
    rw [String.toList_append, natText, String.toList_ofList]
    exact spanDigits_append isDigit_of_mem_digitChars w.head_symbol
  have hparts := hcut m u
  rw [h, hcut n v, Prod.mk.injEq, String.toList_inj] at hparts
  refine ⟨?_, TimeUnit.symbol_inj.mp hparts.2.symm⟩
  rw [← digitsValue_digitChars m, ← hparts.1, digitsValue_digitChars]

/-- A number and a unit are the text of a duration exactly if the unit is the
largest, and the number counts its milliseconds. -/
theorem format_eq_iff {d : Duration} {n : Nat} {u : TimeUnit} :
    d.format = natText n ++ u.symbol
      ↔ u.IsLargest d.milliseconds ∧ n * u.size = d.milliseconds := by
  rw [format, natText_symbol_inj, TimeUnit.isLargest_iff, and_comm]
  refine and_congr_right fun hu => ?_
  rw [hu, Nat.div_eq_iff_eq_mul_left u.size_pos (hu ▸ size_largestUnit_dvd _),
    eq_comm]

/-- Durations have one text exactly if they have the same milliseconds. -/
theorem format_inj {d e : Duration} :
    d.format = e.format ↔ d.milliseconds = e.milliseconds := by
  refine ⟨fun h => ?_, fun h => by rw [format, h, format]⟩
  obtain ⟨n, u, he⟩ : ∃ n u, e.format = natText n ++ TimeUnit.symbol u :=
    ⟨_, _, rfl⟩
  exact (format_eq_iff.mp (h.trans he)).2.symm.trans (format_eq_iff.mp he).2

/-- A duration is written as a number of the largest unit that divides its
milliseconds, no time at all as `0ms`.  Up to `2 ^ 53` whole milliseconds are
read back as they were. -/
theorem format_exact (d : Duration) :
    (∀ n (u : TimeUnit), d.format = natText n ++ u.symbol
        ↔ u.IsLargest d.milliseconds ∧ n * u.size = d.milliseconds)
      ∧ (d.milliseconds = 0 → d.format = "0ms")
      ∧ (d.IsWhole → d.milliseconds ≤ 2 ^ 53 → read d.format = .ok d) := by
  refine ⟨fun n u => format_eq_iff, fun hzero => ?_, fun hwhole hbound => ?_⟩
  · rw [format, hzero]
    decide +kernel
  · have hsize : d.milliseconds < UInt64.size :=
      hbound.trans_lt (by decide)
    rw [read, parse?_format hbound,
      ofMilliseconds_milliseconds hwhole hsize]

/-- A minute and a half is ninety seconds. -/
theorem format_ninety_seconds :
    TimeUnit.second.IsLargest (ofMilliseconds 90000).milliseconds
      ∧ (ofMilliseconds 90000).format = "90s"
      ∧ read "90s" = .ok (ofMilliseconds 90000) := by
  obtain ⟨htext, -, hread⟩ := format_exact (ofMilliseconds 90000)
  have hformat : (ofMilliseconds 90000).format = "90s" := by decide +kernel
  refine ⟨((htext 90 .second).mp (by decide +kernel)).1, hformat, ?_⟩
  rw [← hformat]
  exact hread (by decide) (by decide)

/-- The next number of milliseconds is no double. -/
example : read (ofMilliseconds (2 ^ 53 + 1)).format
    = .ok (ofMilliseconds (2 ^ 53)) := by
  decide +kernel

end Duration

end PolicyWeave
