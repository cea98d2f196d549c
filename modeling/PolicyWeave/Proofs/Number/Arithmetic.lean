import PolicyWeave.Proofs.Number.Exact

/-!
# Sums, quotients and whole parts

The rest of the arithmetic of doubles, by the values of the operands: a
result is nearest to the exact one.

There are four groups.

* `Binary.exists_nearest_add`, `Binary.exists_nearest_sub` and
  `Binary.exists_nearest_div`.
* `Format.Holds.le_pred_of_lt`: the values of a format have gaps, so one
  that is below a bound is a whole gap below it.
* `Format.scaled_between`: a part of the way from one double to another,
  computed with three roundings, ends between the two.
* `roundDiv_mono` and `Binary.nearest?_eq`: the nearest integer to a value
  keeps the order.
-/

namespace PolicyWeave.Number

/-! ## Sums and quotients -/

namespace Binary

variable {x y : Double} {v w : ℚ}

theorem magnitude_not (s : Bool) (m : Nat) (e : Int) :
    magnitude (!s) m e = -magnitude s m e := by
  cases s <;> simp [magnitude]

theorem value?_neg (hx : x.value? = some v) : x.neg.value? = some (-v) := by
  cases x with
  | nan => cases hx
  | infinity => cases hx
  | finite s m e =>
    cases hx
    exact congrArg some (magnitude_not s m e)

/-- An integer is its sign and its size; zero may have either sign. -/
theorem magnitude_natAbs {s : Bool} {n : Int} (e : Int)
    (hs : n ≠ 0 → s = decide (n < 0)) :
    magnitude s n.natAbs e = n * 2 ^ e := by
  rcases lt_trichotomy n 0 with hneg | rfl | hpos
  · have habs : ((n.natAbs : Int) : ℚ) = -(n : ℚ) := by
      rw [Int.ofNat_natAbs_of_nonpos hneg.le, Int.cast_neg]
    obtain rfl : s = true := by simpa [hneg] using hs hneg.ne
    rw [magnitude, if_pos rfl, ← Int.cast_natCast, habs]
    ring
  · simp [magnitude]
  · have habs : ((n.natAbs : Int) : ℚ) = n := by
      rw [Int.natAbs_of_nonneg hpos.le]
    obtain rfl : s = false := by simpa [hpos.not_gt] using hs hpos.ne'
    rw [magnitude, if_neg (by decide), ← Int.cast_natCast, habs]
    ring

/-- The sum of two doubles is nearest to the sum of their values. -/
theorem exists_nearest_add (hx : x.value? = some v) (hy : y.value? = some w)
    (hsize : |v + w| < 2 ^ (1023 : Int)) :
    ∃ z, (x.add y).value? = some z ∧ Format.double.Nearest (v + w) z := by
  cases x with
  | nan => cases hx
  | infinity => cases hx
  | finite s m e =>
    cases y with
    | nan => cases hy
    | infinity => cases hy
    | finite t n d =>
      cases hx
      cases hy
      simp only [add]
      set scale := min e d
      set sum := units s m e scale + units t n d scale with hsum
      have hvalue : (sum : ℚ) * 2 ^ scale
          = magnitude s m e + magnitude t n d := by
        rw [hsum, Int.cast_add, add_mul,
          units_mul_scale s m (min_le_left e d),
          units_mul_scale t n (min_le_right e d)]
      have hsigned := magnitude_natAbs (n := sum) scale
        (s := if sum == 0 then s && t else decide (sum < 0))
        (fun hne => by simp [hne])
      rw [← hvalue, ← hsigned, abs_magnitude] at hsize
      rw [← hvalue, ← hsigned]
      exact Format.exists_nearest_roundScaled Format.proper_double _ hsize

theorem exists_nearest_sub (hx : x.value? = some v) (hy : y.value? = some w)
    (hsize : |v - w| < 2 ^ (1023 : Int)) :
    ∃ z, (x.sub y).value? = some z ∧ Format.double.Nearest (v - w) z := by
  rw [sub_eq_add_neg] at hsize ⊢
  exact exists_nearest_add hx (value?_neg hy) hsize

theorem magnitude_div (s t : Bool) (m n : Nat) (e d : Int) :
    magnitude s m e / magnitude t n d
      = (if s != t then -1 else 1) * (m / n * 2 ^ (e - d)) := by
  rw [zpow_sub₀ two_ne_zero]
  cases s <;> cases t <;> simp [magnitude] <;> field_simp

theorem abs_magnitude_div (s t : Bool) (m n : Nat) (e d : Int) :
    |magnitude s m e / magnitude t n d| = m / n * 2 ^ (e - d) := by
  rw [abs_div, abs_magnitude, abs_magnitude, zpow_sub₀ two_ne_zero]
  ring

/-- The quotient of two doubles is nearest to the quotient of their
values. -/
theorem exists_nearest_div (hx : x.value? = some v) (hy : y.value? = some w)
    (hw : w ≠ 0) (hsize : |v / w| < 2 ^ (1023 : Int)) :
    ∃ z, (x.div y).value? = some z ∧ Format.double.Nearest (v / w) z := by
  cases x with
  | nan => cases hx
  | infinity => cases hx
  | finite s m e =>
    cases y with
    | nan => cases hy
    | infinity => cases hy
    | finite t n d =>
      cases hx
      cases hy
      have hn : n ≠ 0 := by
        rintro rfl
        simp [magnitude] at hw
      rw [abs_magnitude_div] at hsize
      rw [magnitude_div]
      -- the exponents are put into the numerator or into the denominator
      have hround {num den : Nat} (hden : 0 < den)
          (hquotient : (num / den : ℚ) = m / n * 2 ^ (e - d)) :
          ∃ z, (Format.double.round (s != t) num den).value? = some z
            ∧ Format.double.Nearest
              ((if s != t then -1 else 1) * (m / n * 2 ^ (e - d))) z := by
        rw [← hquotient] at hsize ⊢
        exact Format.exists_nearest_value?_round Format.proper_double _ hden
          hsize
      simp only [div, beq_iff_eq, hn, if_false]
      split
      · rename_i hshift
        obtain ⟨k, hk⟩ := Int.eq_ofNat_of_zero_le hshift
        refine hround (Nat.pos_of_ne_zero hn) ?_
        rw [hk, Int.toNat_natCast, zpow_natCast, Nat.pow_eq]
        push_cast
        ring
      · obtain ⟨k, hk⟩ := Int.eq_ofNat_of_zero_le (by omega : 0 ≤ -(e - d))
        refine hround (Nat.mul_pos (Nat.pos_of_ne_zero hn)
          (Nat.pow_pos two_pos)) ?_
        rw [show e - d = -(k : Int) by omega, neg_neg, Int.toNat_natCast,
          zpow_neg, zpow_natCast, Nat.pow_eq]
        push_cast
        field_simp

end Binary

/-! ## Gaps -/

namespace Format

variable {f : Format} {v w r : ℚ}

/-- Below a multiple of `2 ^ u` at which a significand is full, the values of
a format are at most the multiple in front of it. -/
theorem Holds.le_pred_of_lt {c u : ℤ} (hr : f.Holds r)
    (hc : (2 : ℚ) ^ f.precision ≤ 2 * (c - 1)) (hlt : r < c * 2 ^ u) :
    r ≤ (c - 1) * 2 ^ u := by
  obtain ⟨m, k, hm, -, -, rfl⟩ := hr
  have hunit : (0 : ℚ) < 2 ^ u := zpow_pos two_pos u
  rcases le_or_gt u k with hk | hk
  · obtain ⟨n, rfl⟩ := Int.le.dest hk
    rw [zpow_add₀ two_ne_zero, mul_comm ((2 : ℚ) ^ u), ← mul_assoc,
      zpow_natCast] at hlt ⊢
    have hint : m * 2 ^ n < c := by
      exact_mod_cast (mul_lt_mul_iff_of_pos_right hunit).mp hlt
    have hpred : (m * 2 ^ n : ℚ) ≤ c - 1 := by
      exact_mod_cast Int.le_sub_one_of_lt hint
    gcongr
  · -- a smaller unit does not reach so far
    have hm' : (m : ℚ) ≤ 2 ^ f.precision := by
      exact_mod_cast (le_abs_self m).trans hm.le
    have hhalf : (2 : ℚ) ^ k ≤ 2 ^ u / 2 := by
      rw [div_eq_mul_inv, ← zpow_sub_one₀ two_ne_zero]
      exact zpow_le_zpow_right₀ one_le_two (by omega)
    calc (m : ℚ) * 2 ^ k ≤ 2 ^ f.precision * (2 ^ u / 2) := by gcongr
      _ ≤ 2 * (c - 1) * (2 ^ u / 2) := by gcongr
      _ = (c - 1) * 2 ^ u := by ring

/-- The least power of two that fills a significand. -/
theorem holds_full (hf : f.Proper) :
    f.Holds (2 ^ (f.minExponent + ((f.precision : Int) - 1))) := by
  obtain ⟨p, hp⟩ := Nat.exists_eq_add_of_lt hf.precision_pos
  rw [Nat.zero_add] at hp
  have hpower := holds_of_le (q := 2 ^ p) hf
    (by rw [hp]; exact Nat.pow_le_pow_right two_pos p.le_succ)
    le_rfl hf.exponents
  rwa [show f.minExponent + ((f.precision : Int) - 1) = p + f.minExponent by
    omega, zpow_add₀ two_ne_zero, zpow_natCast, ← Nat.cast_two,
    ← Nat.cast_pow]

/-- A small difference of two values is a value: both are multiples of the
least unit. -/
theorem Holds.sub_of_lt (hf : f.Proper) (hv : f.Holds v) (hw : f.Holds w)
    (hsmall : |v - w| < 2 ^ (f.minExponent + ((f.precision : Int) - 1))) :
    f.Holds (v - w) := by
  obtain ⟨m, i, -, hi, -, rfl⟩ := hv
  obtain ⟨n, j, -, hj, -, rfl⟩ := hw
  obtain ⟨a, rfl⟩ := Int.le.dest hi
  obtain ⟨b, rfl⟩ := Int.le.dest hj
  have hunit : (0 : ℚ) < 2 ^ f.minExponent := zpow_pos two_pos _
  have hdifference : (m * 2 ^ (f.minExponent + (a : Int))
        - n * 2 ^ (f.minExponent + (b : Int)) : ℚ)
      = ((m * 2 ^ a - n * 2 ^ b : ℤ) : ℚ) * 2 ^ f.minExponent := by
    rw [zpow_add₀ two_ne_zero, zpow_add₀ two_ne_zero, zpow_natCast,
      zpow_natCast]
    push_cast
    ring
  rw [hdifference] at hsmall ⊢
  refine ⟨_, f.minExponent, ?_, le_rfl, hf.exponents.le, rfl⟩
  obtain ⟨p, hp⟩ := Nat.exists_eq_add_of_lt hf.precision_pos
  rw [Nat.zero_add] at hp
  rw [abs_mul, abs_of_pos hunit, add_comm, zpow_add₀ two_ne_zero,
    mul_lt_mul_iff_of_pos_right hunit, hp,
    show ((p + 1 : Nat) : Int) - 1 = p by omega, zpow_natCast] at hsmall
  rw [hp]
  calc |m * 2 ^ a - n * 2 ^ b| < 2 ^ p := by exact_mod_cast hsmall
    _ ≤ 2 ^ (p + 1) := pow_le_pow_right₀ one_le_two p.le_succ

/-! ## A part of the way -/

/-- A nearest value of a number between two values is between them. -/
theorem Nearest.between {l h : ℚ} (hw : f.Nearest v w) (hl : f.Holds l)
    (hh : f.Holds h) (hv : l ≤ v ∧ v ≤ h) : l ≤ w ∧ w ≤ h :=
  ⟨hw.le_of_holds hl hv.1, hw.le_of_le_holds hh hv.2⟩

/-- A part `u` of the way from `l` to `h`: the width is rounded to `s`, the
part of it to `t`, and the place that is reached to `z`.  The part is so much
less than the whole that both roundings together do not pass `h`. -/
theorem scaled_between {l h s t u z : ℚ} (hf : f.Proper)
    (hl : f.Holds l) (hh : f.Holds h) (hle : l ≤ h)
    (hsize : h - l < 2 ^ (f.maxExponent + ((f.precision : Int) - 1)))
    (hu : 0 ≤ u ∧ u ≤ 1 - 2 / 2 ^ f.precision)
    (hs : f.Nearest (h - l) s) (ht : f.Nearest (u * s) t)
    (hz : f.Nearest (t + l) z) : l ≤ z ∧ z ≤ h := by
  have hwidth : 0 ≤ h - l := sub_nonneg.mpr hle
  have hs0 : 0 ≤ s := hs.le_of_holds (holds_zero hf) hwidth
  have hfull : (0 : ℚ) < 2 ^ f.precision := by positivity
  have hu1 : u ≤ 1 := hu.2.trans (sub_le_self 1 (by positivity))
  have ht' : 0 ≤ t ∧ t ≤ s := ht.between (holds_zero hf) hs.holds
    ⟨mul_nonneg hu.1 hs0, mul_le_of_le_one_left hs0 hu1⟩
  suffices hpart : t ≤ h - l from
    hz.between hl hh ⟨by linarith, by linarith⟩
  rcases lt_or_ge (h - l) (2 ^ (f.minExponent + ((f.precision : Int) - 1)))
    with hsmall | hlarge
  · -- a small width is not rounded
    have hexact := hs.eq_of_holds
      (hh.sub_of_lt hf hl (by rwa [abs_of_nonneg hwidth]))
    exact hexact ▸ ht'.2
  · obtain ⟨-, hstep⟩ := abs_lt.mp (abs_sub_comm _ s ▸
      hs.abs_sub_lt hf hlarge hsize)
    set q : ℚ := 1 / 2 ^ f.precision with hq
    have hq0 : 0 ≤ q := by positivity
    rw [div_eq_mul_one_div, ← hq] at hstep
    rw [div_eq_mul_one_div, ← hq] at hu
    have hus : u * s ≤ (h - l) * (1 - q) := by
      calc u * s ≤ (1 - 2 * q) * s := mul_le_mul_of_nonneg_right hu.2 hs0
        _ ≤ (1 - 2 * q) * ((h - l) * (1 + q)) := by
            have hpos : 0 ≤ 1 - 2 * q := hu.1.trans hu.2
            gcongr
            linarith
        _ ≤ (h - l) * (1 - q) := by nlinarith [mul_nonneg hwidth hq0]
    rcases lt_or_ge (u * s)
      (2 ^ (f.minExponent + ((f.precision : Int) - 1))) with hlow | hhigh
    · exact (ht.le_of_le_holds (holds_full hf) hlow.le).trans hlarge
    · have hless : u * s ≤ h - l :=
        hus.trans (mul_le_of_le_one_right hwidth (by linarith))
      obtain ⟨-, hstep'⟩ := abs_lt.mp (abs_sub_comm _ t ▸
        ht.abs_sub_lt hf hhigh (hless.trans_lt hsize))
      rw [div_eq_mul_one_div, ← hq] at hstep'
      calc t ≤ u * s * (1 + q) := by linarith
        _ ≤ (h - l) * (1 - q) * (1 + q) := by gcongr
        _ ≤ h - l := by nlinarith [mul_nonneg hwidth (mul_nonneg hq0 hq0)]

end Format

/-! ## Nearest integers -/

/-- A quotient half-way between two integers is rounded to the even one. -/
theorem even_roundDiv (num : Nat) {den : Nat} (hden : 0 < den)
    (hhalf : |(num / den : ℚ) - roundDiv num den| = 1 / 2) :
    roundDiv num den % 2 = 0 := by
  have hden' : (0 : ℚ) < den := by exact_mod_cast hden
  have hmod := Nat.mod_lt num hden
  rw [div_eq_add_mod_div num hden] at hhalf
  rw [roundDiv] at hhalf ⊢
  generalize num % den = r at *
  generalize num / den = q at *
  have hrest : (r / den : ℚ) * den = r := div_mul_cancel₀ _ hden'.ne'
  split_ifs at hhalf ⊢ with hlt hgt
  · -- the rest is below one half
    have hlt' : (2 * r : ℚ) < den := by exact_mod_cast hlt
    rw [add_sub_cancel_left, abs_of_nonneg (by positivity)] at hhalf
    rw [hhalf] at hrest
    linarith
  · -- one minus the rest is below one half
    have hgt' : (den : ℚ) < 2 * r := by exact_mod_cast hgt
    have hle : (r / den : ℚ) ≤ 1 := by
      rw [div_le_one hden']
      exact_mod_cast hmod.le
    rw [Nat.cast_succ, add_sub_add_left_eq_sub,
      abs_of_nonpos (sub_nonpos.mpr hle)] at hhalf
    have hhalf' : (r / den : ℚ) = 1 / 2 := by linarith
    rw [hhalf'] at hrest
    linarith
  · omega

/-- Rounding to an integer keeps the order of quotients. -/
theorem roundDiv_mono {a b c d : Nat} (hb : 0 < b) (hd : 0 < d)
    (h : (a / b : ℚ) ≤ c / d) : roundDiv a b ≤ roundDiv c d := by
  by_contra hlt
  have hleft := abs_le.mp (abs_sub_roundDiv_le a hb)
  have hright := abs_le.mp (abs_sub_roundDiv_le c hd)
  have hleftEven := even_roundDiv a hb
  have hrightEven := even_roundDiv c hd
  generalize (a / b : ℚ) = v at *
  generalize (c / d : ℚ) = w at *
  have hnext : (roundDiv c d + 1 : ℚ) ≤ roundDiv a b := by
    exact_mod_cast Nat.lt_of_not_le hlt
  -- the quotients are both half-way between the two integers
  have heq : (roundDiv a b : ℚ) = roundDiv c d + 1 := by linarith
  have hleftEven := hleftEven (by
    rw [abs_of_nonpos (by linarith)]
    linarith)
  have hrightEven := hrightEven (by
    rw [abs_of_nonneg (by linarith)]
    linarith)
  have heq' : roundDiv a b = roundDiv c d + 1 := by exact_mod_cast heq
  omega

@[simp] theorem roundDiv_one (n : Nat) : roundDiv n 1 = n := by
  simp [roundDiv, Nat.mod_one]

namespace Binary

variable {x : Binary} {v : ℚ}

/-- The integer nearest to a scaled value that is not negative is a rounded
quotient. -/
theorem exists_nearest?_eq (hx : x.value? = some v) (hv : 0 ≤ v)
    (scale : Nat) :
    ∃ a b : Nat, 0 < b ∧ (a / b : ℚ) = v * scale
      ∧ x.nearest? scale = some (roundDiv a b) := by
  cases x with
  | nan => cases hx
  | infinity => cases hx
  | finite s m e =>
    cases hx
    have hpower : (0 : ℚ) < 2 ^ e := zpow_pos two_pos e
    have hsign : (s && m != 0) = false := by
      cases s with
      | false => rfl
      | true =>
        rw [magnitude, if_pos rfl, neg_one_mul, neg_mul, neg_nonneg] at hv
        have hm := nonpos_of_mul_nonpos_left hv hpower
        have hzero : m = 0 := by exact_mod_cast le_antisymm hm (by positivity)
        simp [hzero]
    have hvalue : magnitude s m e = m * 2 ^ e := by
      rw [← abs_of_nonneg hv, abs_magnitude]
    simp only [nearest?, hsign, Bool.false_eq_true, if_false, hvalue]
    split
    · rename_i hexponent
      obtain ⟨k, rfl⟩ := Int.eq_ofNat_of_zero_le hexponent
      refine ⟨m * scale * 2 ^ k, 1, one_pos, ?_, by simp⟩
      rw [zpow_natCast]
      push_cast
      ring
    · obtain ⟨k, hk⟩ := Int.eq_ofNat_of_zero_le (by omega : 0 ≤ -e)
      refine ⟨m * scale, 2 ^ k, Nat.pow_pos two_pos, ?_, by simp [hk]⟩
      rw [show e = -(k : Int) by omega, zpow_neg, zpow_natCast]
      push_cast
      field_simp

/-- A negative value has no nearest integer. -/
theorem nearest?_of_neg (hx : x.value? = some v) (hv : v < 0)
    (scale : Nat) : x.nearest? scale = none := by
  cases x with
  | nan => rfl
  | infinity => rfl
  | finite s m e =>
    cases hx
    have hsign : (s && m != 0) = true := by
      cases s with
      | false =>
        have hnonneg : 0 ≤ magnitude false m e := by
          have hpower : (0 : ℚ) < 2 ^ e := zpow_pos two_pos e
          rw [magnitude, if_neg (by decide), one_mul]
          positivity
        exact absurd hv (not_lt.mpr hnonneg)
      | true =>
        have hm : m ≠ 0 := by
          rintro rfl
          simp [magnitude] at hv
        simp [hm]
    simp [nearest?, hsign]

end Binary

end PolicyWeave.Number
