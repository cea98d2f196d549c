import PolicyWeave.Duration
import PolicyWeave.Proofs.Number.Arithmetic

/-!
# Durations as seconds

A duration is turned into seconds by rounding twice and adding, and seconds
are turned into a duration by rounding to nanoseconds.

* `Duration.exists_toSeconds`: every duration has a number of seconds, and
  `Duration.InSeconds` says how large it is.
* `Duration.exists_ofSeconds?_iff`: exactly the numbers of seconds from zero
  on and below `2 ^ 64` have a duration.
* `Duration.ofSeconds?_mono` and `Duration.exists_ofSeconds?_between`: the
  order of the seconds is kept, and between two numbers that have a duration
  there is none without one.
-/

namespace PolicyWeave

open Number

/-- The powers of two in the range of the exponents are doubles. -/
theorem Number.Format.holds_two_zpow {k : Int} (hleast : -1074 ≤ k)
    (hgreatest : k < 971) : Format.double.Holds (2 ^ k) := by
  have hpower := Format.holds_of_le (q := 1) (e := k) Format.proper_double
    (by decide) hleast hgreatest
  rwa [Nat.cast_one, one_mul] at hpower

theorem Number.Format.holds_two_pow {k : Nat} (hk : k < 971) :
    Format.double.Holds (2 ^ k) := by
  rw [← zpow_natCast]
  exact holds_two_zpow (by omega) (by omega)

/-- A number of this size is far from the greatest double. -/
theorem Number.Format.abs_lt_of_le {r : ℚ} (h0 : 0 ≤ r)
    (hr : r ≤ 2 ^ 100) : |r| < 2 ^ (1023 : Int) := by
  rw [abs_of_nonneg h0]
  calc r ≤ 2 ^ 100 := hr
    _ = 2 ^ (100 : Int) := by norm_num
    _ < 2 ^ (1023 : Int) := zpow_lt_zpow_right₀ one_lt_two (by decide)

theorem Number.Format.holds_one : Format.double.Holds 1 := by
  exact_mod_cast Format.holds_natCast (n := 1) (by decide)

namespace Duration

/-! ## Seconds of a duration -/

/-- The number of seconds of a duration: a double, not too close to zero for
a duration that is not zero, and of the size of the whole seconds. -/
structure InSeconds (d : Duration) (b : ℚ) : Prop where
  value : d.toSeconds.value? = some b
  holds : Format.double.Holds b
  least : d.isZero = false → 2 ^ (-30 : Int) ≤ b
  greatest : ∀ k : Nat, k ≤ 64 → d.seconds ≤ 2 ^ k → b ≤ 2 ^ (k + 1)

theorem seconds_lt (d : Duration) : d.seconds < 2 ^ 64 := by
  have hrange := d.inRange
  simp only [limit, UInt64.size] at hrange
  simp only [seconds]
  omega

theorem subsecond_lt (d : Duration) : d.subsecond < 1000000000 :=
  Nat.mod_lt _ (by decide)

/-- A duration that is not zero has whole seconds or a part of one. -/
theorem pos_of_isZero_eq_false {d : Duration} (h : d.isZero = false) :
    1 ≤ d.seconds ∨ 1 ≤ d.subsecond := by
  have hne : d.nanoseconds ≠ 0 := by simpa [isZero] using h
  simp only [seconds, subsecond]
  omega

theorem InSeconds.le {d : Duration} {b : ℚ} (h : d.InSeconds b) :
    b ≤ 2 ^ 65 :=
  h.greatest 64 le_rfl d.seconds_lt.le

/-- The whole seconds are rounded. -/
theorem exists_nearest_seconds (d : Duration) :
    ∃ a, (Format.double.ofNat d.seconds).value? = some a
      ∧ Format.double.Nearest d.seconds a ∧ 0 ≤ a ∧ a ≤ 2 ^ 64 := by
  have hwhole : (d.seconds : ℚ) ≤ 2 ^ 64 := by
    exact_mod_cast d.seconds_lt.le
  obtain ⟨a, ha, hnear⟩ := Format.exists_nearest_ofNat
    (lt_of_abs_lt (Format.abs_lt_of_le (Nat.cast_nonneg d.seconds)
      (hwhole.trans (by norm_num))))
  exact ⟨a, ha, hnear, hnear.between
    (Format.holds_zero Format.proper_double)
    (Format.holds_two_pow (by decide)) ⟨Nat.cast_nonneg _, hwhole⟩⟩

/-- The rest of a second is rounded. -/
theorem exists_nearest_subsecond (d : Duration) :
    ∃ c, ((Format.double.ofNat d.subsecond).div
        (Format.double.ofNat 1000000000)).value? = some c
      ∧ Format.double.Nearest (d.subsecond / 1000000000) c
      ∧ 0 ≤ c ∧ c ≤ 1 := by
  have hpart0 : (0 : ℚ) ≤ d.subsecond / 1000000000 := by positivity
  have hpart : (d.subsecond : ℚ) / 1000000000 ≤ 1 := by
    rw [div_le_one (by norm_num)]
    exact_mod_cast d.subsecond_lt.le
  have hden := Format.value?_ofNat (n := 1000000000) (by decide)
  push_cast at hden
  obtain ⟨c, hc, hnear⟩ := Binary.exists_nearest_div
    (Format.value?_ofNat (d.subsecond_lt.le.trans (by decide))) hden
    (by norm_num)
    (Format.abs_lt_of_le hpart0 (hpart.trans (by norm_num)))
  exact ⟨c, hc, hnear, hnear.between
    (Format.holds_zero Format.proper_double) Format.holds_one
    ⟨hpart0, hpart⟩⟩

/-- The two parts are added, and their sum is rounded too. -/
theorem exists_toSeconds (d : Duration) : ∃ b, d.InSeconds b := by
  obtain ⟨a, ha, hanear, ha0, ha1⟩ := d.exists_nearest_seconds
  obtain ⟨c, hc, hcnear, hc0, hc1⟩ := d.exists_nearest_subsecond
  obtain ⟨b, hb, hbnear⟩ := Binary.exists_nearest_add ha hc
    (Format.abs_lt_of_le (add_nonneg ha0 hc0) (by linarith))
  refine ⟨b, hb, hbnear.holds, fun hd => ?_, fun k hk hseconds => ?_⟩
  · have hleast := Format.holds_two_zpow (k := -30) (by decide) (by decide)
    refine hbnear.le_of_holds hleast ?_
    rcases pos_of_isZero_eq_false hd with hwhole | hpart
    · have ha1 := hanear.le_of_holds Format.holds_one
        (by exact_mod_cast hwhole)
      have hpower : (2 : ℚ) ^ (-30 : Int) ≤ 1 := by norm_num
      linarith
    · have hpart' : (1 : ℚ) ≤ d.subsecond := by exact_mod_cast hpart
      have hc1 := hcnear.le_of_holds hleast (by
        rw [le_div_iff₀ (by norm_num)]
        exact le_trans (by norm_num) hpart')
      linarith
  · have hpower : (2 : ℚ) ^ k + 1 ≤ 2 ^ (k + 1) := by
      have hge : (1 : ℚ) ≤ 2 ^ k := one_le_pow₀ one_le_two
      rw [pow_succ]
      linarith
    have hak := hanear.le_of_le_holds
      (Format.holds_two_pow (k := k) (by omega))
      (by exact_mod_cast hseconds)
    exact hbnear.le_of_le_holds (Format.holds_two_pow (by omega))
      (by linarith)

/-! ## The duration of a number of seconds -/

variable {x y z : Double} {v w r : ℚ}

/-- A number of seconds that is not negative has the nearest number of
nanoseconds, if that is in range. -/
theorem exists_ofSeconds?_eq (hx : x.value? = some v) (hv : 0 ≤ v) :
    ∃ a b : Nat, 0 < b ∧ (a / b : ℚ) = v * 1000000000
      ∧ ofSeconds? x = ofNanoseconds? (roundDiv a b) := by
  obtain ⟨a, b, hb, hvalue, hnearest⟩ :=
    Binary.exists_nearest?_eq hx hv 1000000000
  refine ⟨a, b, hb, by exact_mod_cast hvalue, ?_⟩
  rw [ofSeconds?, hnearest]
  rfl

theorem ofNanoseconds?_eq_some_iff {n : Nat} {d : Duration} :
    ofNanoseconds? n = some d ↔ d.nanoseconds = n := by
  unfold ofNanoseconds?
  split
  · rw [Option.some_inj]
    constructor
    · rintro rfl
      rfl
    · rintro rfl
      rfl
  · rename_i hrange
    constructor
    · intro h
      cases h
    · rintro rfl
      exact absurd d.inRange hrange

theorem exists_ofNanoseconds?_iff {n : Nat} :
    (∃ d, ofNanoseconds? n = some d) ↔ n < limit := by
  unfold ofNanoseconds?
  split <;> simp_all

/-- A negative number of seconds has no duration. -/
theorem ofSeconds?_of_neg (hx : x.value? = some v) (hv : v < 0) :
    ofSeconds? x = none := by
  rw [ofSeconds?, Binary.nearest?_of_neg hx hv]
  rfl

/-- A number of seconds has a duration exactly if it is not negative and
below `2 ^ 64`.  The doubles below that bound are so far from it that they
are not rounded up to it. -/
theorem exists_ofSeconds?_iff (hx : x.value? = some v)
    (hv : Format.double.Holds v) :
    (∃ d, ofSeconds? x = some d) ↔ 0 ≤ v ∧ v < 2 ^ 64 := by
  rcases lt_or_ge v 0 with hneg | hnonneg
  · simp [ofSeconds?_of_neg hx hneg, hneg]
  · obtain ⟨a, b, hb, hvalue, heq⟩ := exists_ofSeconds?_eq hx hnonneg
    have hhalf := abs_le.mp (abs_sub_roundDiv_le a hb)
    rw [hvalue] at hhalf
    rw [heq, exists_ofNanoseconds?_iff, limit, UInt64.size]
    constructor
    · intro hlt
      have hlt' : (roundDiv a b : ℚ) + 1 ≤ 2 ^ 64 * 1000000000 := by
        exact_mod_cast hlt
      refine ⟨hnonneg, ?_⟩
      norm_num at hlt' hhalf ⊢
      linarith
    · rintro ⟨-, hlt⟩
      have hgap := hv.le_pred_of_lt (c := 2 ^ 53) (u := 11)
        (by norm_num [Format.double]) (by norm_num at hlt ⊢; linarith)
      have hround : (roundDiv a b : ℚ) < 2 ^ 64 * 1000000000 := by
        norm_num at hgap hhalf
        linarith
      exact_mod_cast hround

theorem ofSeconds?_mono {a b : Duration} (hx : x.value? = some v)
    (hy : y.value? = some w) (hle : v ≤ w) (ha : ofSeconds? x = some a)
    (hb : ofSeconds? y = some b) : a.nanoseconds ≤ b.nanoseconds := by
  have hv : 0 ≤ v := by
    by_contra hneg
    rw [ofSeconds?_of_neg hx (not_le.mp hneg)] at ha
    cases ha
  obtain ⟨m, n, hn, hvalue, heq⟩ := exists_ofSeconds?_eq hx hv
  obtain ⟨k, l, hl, hvalue', heq'⟩ := exists_ofSeconds?_eq hy (hv.trans hle)
  rw [heq, ofNanoseconds?_eq_some_iff] at ha
  rw [heq', ofNanoseconds?_eq_some_iff] at hb
  rw [ha, hb]
  refine roundDiv_mono hn hl ?_
  rw [hvalue, hvalue']
  gcongr

/-- A number of seconds between two that have a duration has one between
theirs. -/
theorem exists_ofSeconds?_between {a b : Duration} (hx : x.value? = some v)
    (hy : y.value? = some w) (hz : z.value? = some r) (hle : v ≤ r)
    (hle' : r ≤ w) (ha : ofSeconds? x = some a)
    (hb : ofSeconds? y = some b) :
    ∃ d, ofSeconds? z = some d ∧ a.nanoseconds ≤ d.nanoseconds
      ∧ d.nanoseconds ≤ b.nanoseconds := by
  have hv : 0 ≤ v := by
    by_contra hneg
    rw [ofSeconds?_of_neg hx (not_le.mp hneg)] at ha
    cases ha
  obtain ⟨m, n, hn, hvalue, heq⟩ := exists_ofSeconds?_eq hz (hv.trans hle)
  obtain ⟨k, l, hl, hvalue', heq'⟩ :=
    exists_ofSeconds?_eq hy ((hv.trans hle).trans hle')
  have hb' := hb
  rw [heq', ofNanoseconds?_eq_some_iff] at hb'
  have hround : roundDiv m n ≤ roundDiv k l := by
    refine roundDiv_mono hn hl ?_
    rw [hvalue, hvalue']
    gcongr
  obtain ⟨d, hd⟩ := exists_ofNanoseconds?_iff.mpr
    (hround.trans_lt (hb' ▸ b.inRange))
  rw [← heq] at hd
  exact ⟨d, hd, ofSeconds?_mono hx hz hle ha hd,
    ofSeconds?_mono hz hy hle' hd hb⟩

end Duration

end PolicyWeave
