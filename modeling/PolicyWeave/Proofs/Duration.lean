import PolicyWeave.Duration

/-!
# Durations of whole milliseconds

What a text says is a number of units, so the durations of texts are whole
milliseconds.

* `Duration.IsWhole` is a duration of whole milliseconds, and
  `Duration.ofMilliseconds_milliseconds` says that it is known from their
  number.
* `Duration.size_largestUnit_dvd`: the unit of a text divides the whole
  milliseconds, so nothing is cut off.
-/

namespace PolicyWeave

namespace Duration

open Number

/-! ## Whole milliseconds -/

/-- Whether a duration is a whole number of milliseconds. -/
def IsWhole (d : Duration) : Prop := 1000000 ∣ d.nanoseconds

instance (d : Duration) : Decidable d.IsWhole :=
  inferInstanceAs (Decidable (1000000 ∣ d.nanoseconds))

/-- A duration of whole milliseconds that a word can count is known from
their number. -/
theorem ofMilliseconds_milliseconds {d : Duration} (h : d.IsWhole)
    (hsize : d.milliseconds < UInt64.size) :
    ofMilliseconds d.milliseconds = d := by
  obtain ⟨n, hn⟩ := d
  obtain ⟨k, rfl⟩ := h
  simp only [milliseconds, ofMilliseconds, Duration.mk.injEq] at hsize ⊢
  omega

/-- A number of milliseconds that a word can count gives a duration back
exactly if it is made of whole milliseconds, at most so many. -/
theorem ofMilliseconds_eq_iff {d : Duration} :
    (d.milliseconds < UInt64.size ∧ ofMilliseconds d.milliseconds = d) ↔
      d.IsWhole ∧ d.milliseconds < UInt64.size := by
  refine ⟨fun ⟨hsize, hd⟩ => ⟨?_, hsize⟩, fun ⟨hwhole, hsize⟩ =>
    ⟨hsize, ofMilliseconds_milliseconds hwhole hsize⟩⟩
  rw [← hd]
  exact Nat.dvd_mul_left 1000000 _

/-- Every text is one of whole milliseconds that a word can count. -/
theorem isWhole_of_parse? {s : String} {d : Duration}
    (h : parse? s = some d) : d.IsWhole ∧ d.milliseconds < UInt64.size := by
  simp only [parse?, parseTrimmed?, Option.bind_eq_bind,
    Option.bind_eq_some_iff, Option.pure_def, Option.some.injEq] at h
  obtain ⟨x, -, u, -, rfl⟩ := h
  refine ⟨Nat.dvd_mul_left 1000000 _, ?_⟩
  simp only [ofUnits, ofMilliseconds, milliseconds]
  have hsize : 0 < UInt64.size := by decide
  omega

/-! ## Units -/

theorem TimeUnit.ofSymbol?_symbol (u : TimeUnit) :
    ofSymbol? u.symbol.toList = some u := by
  cases u <;> decide +kernel

theorem TimeUnit.size_pos (u : TimeUnit) : 0 < u.size := by
  cases u <;> decide

/-- The unit of a text divides the milliseconds. -/
theorem size_largestUnit_dvd (ms : Nat) : (largestUnit ms).size ∣ ms := by
  unfold largestUnit
  split
  · exact Nat.one_dvd ms
  · cases hfind : TimeUnit.descending.find? fun u => ms % u.size == 0 with
    | none => exact Nat.one_dvd ms
    | some u =>
      have hzero := List.find?_some hfind
      exact Nat.dvd_of_mod_eq_zero (by simpa using hzero)

end Duration

end PolicyWeave
