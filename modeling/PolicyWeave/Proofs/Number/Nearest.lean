import Mathlib.Algebra.Order.Archimedean.Basic
import Mathlib.Algebra.Order.Field.Basic
import Mathlib.Data.Rat.Floor
import Mathlib.Tactic.Positivity
import PolicyWeave.Proofs.Number.Value

/-!
# Rounding to the nearest value

A quotient that a format does not represent is rounded to a value that no
other value of the format is closer to.

There are four groups.

* `abs_sub_roundDiv_le`: one quotient, rounded to an integer.
  `pow_floorLog2_le` and `lt_pow_floorLog2_succ`: its size.
* `Format.Nearest` says that a value of a format is a nearest one.  It keeps
  the order of the values (`Format.Nearest.le_of_holds`), and its error is
  below one half of the last place (`Format.Nearest.abs_sub_lt`).
* `Format.exists_nearest_round`: every rounded quotient is nearest, unless
  it is past the last exponent.
* Products and decimals: `Binary.exists_nearest_mul` and
  `Format.exists_nearest_ofDecimal`.
-/

namespace PolicyWeave.Number

variable {num den : Nat}

/-! ## One quotient -/

/-- A quotient is its whole part and the rest. -/
theorem div_eq_add_mod_div (num : Nat) (hden : 0 < den) :
    (num / den : ℚ) = (num / den : Nat) + (num % den : Nat) / den := by
  have hden' : (0 : ℚ) < den := by exact_mod_cast hden
  rw [eq_comm, ← mul_left_inj' hden'.ne', add_mul,
    div_mul_cancel₀ _ hden'.ne', div_mul_cancel₀ _ hden'.ne']
  exact_mod_cast Nat.div_add_mod' num den

/-- A rounded quotient is at most one half away. -/
theorem abs_sub_roundDiv_le (num : Nat) (hden : 0 < den) :
    |(num / den : ℚ) - roundDiv num den| ≤ 1 / 2 := by
  have hden' : (0 : ℚ) < den := by exact_mod_cast hden
  have hlow : (0 : ℚ) ≤ (num % den : Nat) / den := by positivity
  have hhigh : ((num % den : Nat) / den : ℚ) < 1 := by
    rw [div_lt_one hden']
    exact_mod_cast Nat.mod_lt num hden
  have hhalf (r : Nat) : (2 * r < den ↔ (r / den : ℚ) < 1 / 2)
      ∧ (den < 2 * r ↔ 1 / 2 < (r / den : ℚ)) := by
    rw [div_lt_iff₀ hden', lt_div_iff₀ hden']
    constructor
    all_goals
      rw [← Nat.cast_lt (α := ℚ)]
      push_cast
      constructor <;> intro h <;> linarith
  obtain ⟨hbelow, habove⟩ := hhalf (num % den)
  simp only [roundDiv, hbelow, habove, div_eq_add_mod_div num hden]
  generalize ((num % den : Nat) / den : ℚ) = t at *
  generalize num / den = q
  rw [abs_le]
  split_ifs with hlt hgt
  · constructor <;> linarith
  · push_cast
    constructor <;> linarith
  · obtain rfl : t = 1 / 2 := le_antisymm (not_lt.mp hgt) (not_lt.mp hlt)
    rcases Nat.mod_two_eq_zero_or_one q with heven | hodd
    · rw [heven]
      norm_num
    · rw [hodd]
      norm_num

/-- No integer is closer to a quotient than the rounded one. -/
theorem abs_sub_roundDiv_le_abs_sub (num : Nat) (hden : 0 < den) (j : ℤ) :
    |(num / den : ℚ) - roundDiv num den| ≤ |(num / den : ℚ) - j| := by
  have hhalf := abs_sub_roundDiv_le num hden
  generalize roundDiv num den = q at *
  by_cases heq : (q : ℤ) = j
  · rw [← heq, Int.cast_natCast]
  · -- another integer is one away from the rounded quotient
    have hone : (1 : ℚ) ≤ |(q : ℚ) - j| := by
      exact_mod_cast Int.one_le_abs (sub_ne_zero.mpr heq)
    have htriangle := abs_sub_le (q : ℚ) (num / den) j
    rw [abs_sub_comm (q : ℚ) (num / den)] at htriangle
    linarith

/-- The power of two at the size of a quotient is not above it. -/
theorem pow_floorLog2_le {num den : Nat} (hnum : num ≠ 0) (hden : 0 < den) :
    (2 : ℚ) ^ floorLog2 num den ≤ num / den := by
  have hden' : (0 : ℚ) < den := by exact_mod_cast hden
  unfold floorLog2
  extract_lets k reached
  rw [le_div_iff₀ hden']
  split
  · rename_i hreached
    by_cases hk : 0 ≤ k
    · obtain ⟨n, hn⟩ := Int.eq_ofNat_of_zero_le hk
      have hle : den * 2 ^ n ≤ num := by
        simpa [reached, hk, hn] using hreached
      rw [hn, zpow_natCast, mul_comm]
      exact_mod_cast hle
    · obtain ⟨n, hn⟩ := Int.eq_ofNat_of_zero_le (by omega : 0 ≤ -k)
      have hle : den ≤ num * 2 ^ n := by
        simpa [reached, hk, hn] using hreached
      rw [show k = -(n : Int) by omega, zpow_neg, zpow_natCast,
        inv_mul_le_iff₀ (by positivity), mul_comm]
      exact_mod_cast hle
  · -- one less than the difference of the logarithms is always reached
    have hlow : 2 ^ num.log2 ≤ num := Nat.log2_self_le hnum
    have hhigh : den ≤ 2 ^ (den.log2 + 1) := Nat.lt_log2_self.le
    have hsplit : (2 : ℚ) ^ (k - 1) * 2 ^ (den.log2 + 1)
        = 2 ^ num.log2 := by
      rw [← zpow_natCast, ← zpow_natCast, ← zpow_add₀ two_ne_zero]
      congr 1
      omega
    calc (2 : ℚ) ^ (k - 1) * den
        ≤ 2 ^ (k - 1) * 2 ^ (den.log2 + 1) := by
          gcongr
          exact_mod_cast hhigh
      _ = 2 ^ num.log2 := hsplit
      _ ≤ num := by exact_mod_cast hlow

/-- A quotient is below the next power of two at its size. -/
theorem lt_pow_floorLog2_succ (num : Nat) (hden : 0 < den) :
    (num / den : ℚ) < 2 ^ (floorLog2 num den + 1) := by
  have hden' : (0 : ℚ) < den := by exact_mod_cast hden
  unfold floorLog2
  extract_lets k reached
  rw [div_lt_iff₀ hden']
  split
  · have hhigh : num < 2 ^ (num.log2 + 1) := Nat.lt_log2_self
    have hlow : 2 ^ den.log2 ≤ den := Nat.log2_self_le hden.ne'
    have hsplit : (2 : ℚ) ^ (k + 1) * 2 ^ den.log2
        = 2 ^ (num.log2 + 1) := by
      rw [← zpow_natCast, ← zpow_natCast, ← zpow_add₀ two_ne_zero]
      congr 1
      omega
    calc (num : ℚ) < 2 ^ (num.log2 + 1) := by exact_mod_cast hhigh
      _ = 2 ^ (k + 1) * 2 ^ den.log2 := hsplit.symm
      _ ≤ 2 ^ (k + 1) * den := by
          gcongr
          exact_mod_cast hlow
  · rename_i hreached
    rw [sub_add_cancel]
    by_cases hk : 0 ≤ k
    · obtain ⟨n, hn⟩ := Int.eq_ofNat_of_zero_le hk
      have hlt : num < den * 2 ^ n := by
        simpa [reached, hk, hn] using hreached
      rw [hn, zpow_natCast, mul_comm]
      exact_mod_cast hlt
    · obtain ⟨n, hn⟩ := Int.eq_ofNat_of_zero_le (by omega : 0 ≤ -k)
      have hlt : num * 2 ^ n < den := by
        simpa [reached, hk, hn] using hreached
      rw [show k = -(n : Int) by omega, zpow_neg, zpow_natCast,
        lt_inv_mul_iff₀ (by positivity), mul_comm]
      exact_mod_cast hlt

/-! ## Nearest values -/

/-- Whether a number is a finite value of a format. -/
def Format.Holds (f : Format) (r : ℚ) : Prop :=
  ∃ m k : ℤ, |m| < 2 ^ f.precision ∧ f.minExponent ≤ k
    ∧ k ≤ f.maxExponent ∧ r = m * 2 ^ k

/-- Whether `w` is a value of a format that no other value of the format is
closer to `v` than. -/
structure Format.Nearest (f : Format) (v w : ℚ) : Prop where
  holds : f.Holds w
  closest : ∀ r, f.Holds r → |v - w| ≤ |v - r|

/-- Whether a format has a significand and more than one exponent. -/
structure Format.Proper (f : Format) : Prop where
  precision_pos : 0 < f.precision
  exponents : f.minExponent < f.maxExponent

theorem Format.proper_double : Format.double.Proper :=
  ⟨by decide, by decide⟩

namespace Format

variable {f : Format} {v w r : ℚ}

theorem holds_zero (hf : f.Proper) : f.Holds 0 :=
  ⟨0, f.minExponent, by simp, le_rfl, hf.exponents.le, by simp⟩

theorem Holds.neg (h : f.Holds r) : f.Holds (-r) := by
  obtain ⟨m, k, hm, hleast, hgreatest, rfl⟩ := h
  exact ⟨-m, k, by rwa [abs_neg], hleast, hgreatest, by push_cast; ring⟩

/-- A significand may be the next power of two, which is one place
higher. -/
theorem holds_of_le {q : Nat} {e : Int} (hf : f.Proper)
    (hq : q ≤ 2 ^ f.precision) (hleast : f.minExponent ≤ e)
    (hgreatest : e < f.maxExponent) : f.Holds (q * 2 ^ e) := by
  rcases hq.lt_or_eq with hq | rfl
  · refine ⟨q, e, ?_, hleast, hgreatest.le, by push_cast; rfl⟩
    rw [Nat.abs_cast]
    exact_mod_cast hq
  · obtain ⟨p, hp⟩ := Nat.exists_eq_add_of_lt hf.precision_pos
    rw [Nat.zero_add] at hp
    refine ⟨2 ^ p, e + 1, ?_, by omega, by omega, ?_⟩
    · rw [abs_of_pos (by positivity), hp]
      exact pow_lt_pow_right₀ one_lt_two (Nat.lt_succ_self p)
    · rw [hp, zpow_add_one₀ two_ne_zero]
      push_cast
      ring

theorem Nearest.neg (h : f.Nearest v w) : f.Nearest (-v) (-w) := by
  refine ⟨h.holds.neg, fun r hr => ?_⟩
  calc |-v - -w| = |v - w| := by rw [← neg_sub', abs_neg]
    _ ≤ |v - -r| := h.closest (-r) hr.neg
    _ = |-v - r| := by rw [sub_neg_eq_add, ← neg_add', abs_neg]

/-- A value of the format is nearest to itself only. -/
theorem Nearest.eq_of_holds (h : f.Nearest v w) (hv : f.Holds v) :
    w = v := by
  have hzero := h.closest v hv
  rw [sub_self, abs_zero, abs_nonpos_iff, sub_eq_zero] at hzero
  exact hzero.symm

/-- A nearest value is not below a value of the format that is not above
the number. -/
theorem Nearest.le_of_holds (h : f.Nearest v w) (hr : f.Holds r)
    (hle : r ≤ v) : r ≤ w := by
  by_contra hlt
  have hclosest := h.closest r hr
  rw [abs_of_nonneg (by linarith), abs_of_nonneg (by linarith)] at hclosest
  linarith

theorem Nearest.le_of_le_holds (h : f.Nearest v w) (hr : f.Holds r)
    (hle : v ≤ r) : w ≤ r := by
  have hneg := h.neg.le_of_holds hr.neg (neg_le_neg hle)
  exact neg_le_neg_iff.mp hneg

/-- The error of a nearest value is below one half of the last place, when
the number is not below the least power of two that fills a significand. -/
theorem Nearest.abs_sub_lt (hf : f.Proper) (h : f.Nearest v w)
    (hlow : 2 ^ (f.minExponent + ((f.precision : Int) - 1)) ≤ v)
    (hhigh : v < 2 ^ (f.maxExponent + ((f.precision : Int) - 1))) :
    |v - w| < v / 2 ^ f.precision := by
  have hpos : 0 < v := (zpow_pos two_pos _).trans_le hlow
  obtain ⟨n, hbelow, habove⟩ := exists_mem_Ico_zpow hpos one_lt_two
  have hleast := (zpow_lt_zpow_iff_right₀ one_lt_two).mp
    (hlow.trans_lt habove)
  have hgreatest := (zpow_lt_zpow_iff_right₀ one_lt_two).mp
    (hbelow.trans_lt hhigh)
  obtain ⟨p, hp⟩ := Nat.exists_eq_add_of_lt hf.precision_pos
  rw [Nat.zero_add] at hp
  obtain ⟨k, rfl⟩ : ∃ k, n = k + p := ⟨n - p, by omega⟩
  have hunit : (0 : ℚ) < 2 ^ k := zpow_pos two_pos k
  rcases hbelow.lt_or_eq with hbelow | heq
  · -- the integer nearest to the number of units gives a value of the format
    obtain ⟨q, hround⟩ : ∃ q : Nat, |v / 2 ^ k - q| ≤ 1 / 2 := by
      have hfloor := Nat.floor_le (a := v / 2 ^ k + 1 / 2) (by positivity)
      have hnext := Nat.lt_floor_add_one (v / 2 ^ k + 1 / 2)
      refine ⟨⌊v / 2 ^ k + 1 / 2⌋₊, abs_le.mpr ⟨?_, ?_⟩⟩ <;> linarith
    have hscaled : |v - q * 2 ^ k| ≤ 2 ^ k / 2 := by
      have hfactor : v - q * 2 ^ k = (v / 2 ^ k - q) * 2 ^ k := by
        rw [sub_mul, div_mul_cancel₀ _ hunit.ne']
      rw [hfactor, abs_mul, abs_of_pos hunit]
      linarith [mul_le_mul_of_nonneg_right hround hunit.le]
    have hsmall : q ≤ 2 ^ f.precision := by
      have hlt : v / 2 ^ k < 2 ^ f.precision := by
        rw [div_lt_iff₀ hunit, hp, ← zpow_natCast, ← zpow_add₀ two_ne_zero]
        convert habove using 2
        push_cast
        ring
      have hnext : (q : ℚ) < 2 ^ f.precision + 1 := by
        linarith [(abs_le.mp hround).1]
      exact Nat.lt_succ_iff.mp (by exact_mod_cast hnext)
    have hclosest := h.closest _
      (holds_of_le (e := k) hf hsmall (by omega) (by omega))
    have hhalf : 2 ^ k / 2 < v / 2 ^ f.precision := by
      rw [lt_div_iff₀ (by positivity), hp, pow_succ]
      rw [zpow_add₀ two_ne_zero, zpow_natCast] at hbelow
      linarith
    linarith
  · have hholds : f.Holds v := by
      have hpower := holds_of_le (q := 2 ^ p) (e := k) hf
        (by rw [hp]; exact Nat.pow_le_pow_right two_pos p.le_succ)
        (by omega) (by omega)
      rw [← heq, zpow_add₀ two_ne_zero, zpow_natCast, mul_comm]
      exact_mod_cast hpower
    rw [h.eq_of_holds hholds, sub_self, abs_zero]
    positivity

/-! ## Rounding a quotient -/

/-- The rounded number of units `2 ^ u` in a quotient. -/
theorem exists_roundDiv_units (num : Nat) (hden : 0 < den) (u : Int) :
    ∃ a b : Nat, 0 < b ∧ (a / b : ℚ) = num / den / 2 ^ u
      ∧ (if 0 ≤ u then roundDiv num (den * Nat.pow 2 u.toNat)
          else roundDiv (num * Nat.pow 2 (-u).toNat) den)
        = roundDiv a b := by
  split
  · rename_i hsign
    obtain ⟨n, rfl⟩ := Int.eq_ofNat_of_zero_le hsign
    refine ⟨num, den * 2 ^ n, by positivity, ?_, rfl⟩
    push_cast
    rw [zpow_natCast, div_div]
  · obtain ⟨n, hn⟩ := Int.eq_ofNat_of_zero_le (by omega : 0 ≤ -u)
    obtain rfl : u = -(n : Int) := by omega
    refine ⟨num * 2 ^ n, den, hden, ?_, by simp⟩
    push_cast
    rw [zpow_neg, zpow_natCast, div_inv_eq_mul, mul_div_right_comm]

/-- A number of units that no other number of them is closer than is
nearest, where a smaller unit would not reach the number. -/
theorem nearest_of_units {q : Nat} {u : Int} (hf : f.Proper)
    (hholds : f.Holds (q * 2 ^ u))
    (hclosest : ∀ j : ℤ, |v - q * 2 ^ u| ≤ |v - j * 2 ^ u|)
    (hsize : u = f.minExponent ∨ 2 ^ (u + ((f.precision : Int) - 1)) ≤ v) :
    f.Nearest v (q * 2 ^ u) := by
  refine ⟨hholds, ?_⟩
  rintro r ⟨m, k, hm, hleast, -, rfl⟩
  obtain ⟨p, hp⟩ := Nat.exists_eq_add_of_lt hf.precision_pos
  rw [Nat.zero_add] at hp
  rcases le_or_gt u k with hk | hk
  · obtain ⟨n, rfl⟩ := Int.le.dest hk
    have hunits := hclosest (m * 2 ^ n)
    push_cast at hunits
    rwa [mul_assoc, ← zpow_natCast, ← zpow_add₀ two_ne_zero, add_comm _ u]
      at hunits
  · -- all values with a smaller unit are below the power of two at `v`
    have hpower : 2 ^ p * 2 ^ u ≤ v := by
      have hreached := hsize.resolve_left (by omega)
      rwa [show u + ((f.precision : Int) - 1) = p + u by omega,
        zpow_add₀ two_ne_zero, zpow_natCast] at hreached
    have hbelow : (m : ℚ) * 2 ^ k ≤ 2 ^ p * 2 ^ u := by
      have hm' : (m : ℚ) ≤ 2 ^ (p + 1) := by
        exact_mod_cast (hp ▸ (le_abs_self m).trans hm.le)
      calc (m : ℚ) * 2 ^ k ≤ 2 ^ (p + 1) * 2 ^ (u - 1) := by
            gcongr
            · exact one_le_two
            · omega
        _ = 2 ^ p * 2 ^ u := by
            rw [pow_succ, mul_assoc, ← zpow_one_add₀ two_ne_zero,
              add_sub_cancel]
    have hunits := hclosest (2 ^ p)
    push_cast at hunits
    rw [abs_of_nonneg (a := v - 2 ^ p * 2 ^ u) (by linarith)] at hunits
    rw [abs_of_nonneg (a := v - m * 2 ^ k) (by linarith)]
    linarith

/-- The rounded number of units fits a significand, or is the next power of
two. -/
theorem roundDiv_units_le {a b p : Nat} {u : Int} (hb : 0 < b)
    (hscaled : (a / b : ℚ) = v / 2 ^ u) (hv : v < 2 ^ (u + p)) :
    roundDiv a b ≤ 2 ^ p := by
  have hhalf := (abs_le.mp (abs_sub_roundDiv_le a hb)).1
  have hlt : (a / b : ℚ) < 2 ^ p := by
    rwa [hscaled, div_lt_iff₀ (zpow_pos two_pos u), ← zpow_natCast,
      ← zpow_add₀ two_ne_zero, add_comm]
  have hnext : (roundDiv a b : ℚ) < 2 ^ p + 1 := by linarith
  exact Nat.lt_succ_iff.mp (by exact_mod_cast hnext)

/-- The rounded number of units is a closest one. -/
theorem abs_sub_units_le {a b : Nat} {u : Int} (hb : 0 < b)
    (hscaled : (a / b : ℚ) = v / 2 ^ u) (j : ℤ) :
    |v - roundDiv a b * 2 ^ u| ≤ |v - j * 2 ^ u| := by
  have hunit : (0 : ℚ) < 2 ^ u := zpow_pos two_pos u
  have hfactor (x : ℚ) : |v - x * 2 ^ u| = |(a / b : ℚ) - x| * 2 ^ u := by
    rw [hscaled, ← abs_of_pos hunit, ← abs_mul, abs_of_pos hunit, sub_mul,
      div_mul_cancel₀ _ hunit.ne']
  rw [hfactor, hfactor]
  exact mul_le_mul_of_nonneg_right (abs_sub_roundDiv_le_abs_sub a hb j)
    hunit.le

/-- A rounded quotient is its rounded number of units.  One that carries
keeps its value. -/
theorem exists_round_eq {q : Nat} {u : Int} (hf : f.Proper)
    (negative : Bool) (hnum : num ≠ 0) (hu : f.unitExponent num den = u)
    (hq : (if 0 ≤ u then roundDiv num (den * Nat.pow 2 u.toNat)
      else roundDiv (num * Nat.pow 2 (-u).toNat) den) = q)
    (hgreatest : u < f.maxExponent) :
    ∃ m e, f.round negative num den = .finite negative m e
      ∧ (m * 2 ^ e : ℚ) = q * 2 ^ u := by
  simp only [round, hnum, beq_iff_eq, ↓reduceIte, hu, Nat.pow_eq] at hq ⊢
  rw [hq]
  by_cases hcarried : q = 2 ^ f.precision
  · obtain ⟨p, hp⟩ := Nat.exists_eq_add_of_lt hf.precision_pos
    rw [Nat.zero_add] at hp
    refine ⟨2 ^ p, u + 1, ?_, ?_⟩
    · rw [if_neg (by simp [hcarried]; omega)]
      simp [hcarried, hp, pow_succ]
    · rw [hcarried, hp, zpow_add_one₀ two_ne_zero]
      push_cast
      ring
  · refine ⟨q, u, ?_, rfl⟩
    rw [if_neg (by simp [hcarried]; omega)]
    simp [hcarried]

/-- A quotient that is not past the last exponent is rounded to a nearest
value. -/
theorem exists_nearest_round (hf : f.Proper) (negative : Bool)
    (hden : 0 < den)
    (hsize : (num / den : ℚ)
      < 2 ^ (f.maxExponent + ((f.precision : Int) - 1))) :
    ∃ m e, f.round negative num den = .finite negative m e
      ∧ f.Nearest (num / den) (m * 2 ^ e) := by
  by_cases hnum : num = 0
  · refine ⟨0, f.minExponent, by simp [round, hnum], ?_⟩
    have hzero : f.Nearest 0 0 :=
      ⟨holds_zero hf, fun r _ => by simp [abs_nonneg]⟩
    simpa [hnum] using hzero
  · have hlow := pow_floorLog2_le hnum hden
    have hhigh := lt_pow_floorLog2_succ num hden
    have hsmall : floorLog2 num den
        < f.maxExponent + ((f.precision : Int) - 1) :=
      (zpow_lt_zpow_iff_right₀ one_lt_two).mp (hlow.trans_lt hsize)
    obtain ⟨u, hu⟩ : ∃ u, f.unitExponent num den = u := ⟨_, rfl⟩
    have hmax : max f.minExponent
        (floorLog2 num den - ((f.precision : Int) - 1)) = u := hu
    have hgreatest : u < f.maxExponent := by
      have hexponents := hf.exponents
      omega
    obtain ⟨a, b, hb, hscaled, hq⟩ := exists_roundDiv_units num hden u
    obtain ⟨m, e, hround, hvalue⟩ :=
      exists_round_eq hf negative hnum hu hq hgreatest
    refine ⟨m, e, hround, ?_⟩
    rw [hvalue]
    have hle : roundDiv a b ≤ 2 ^ f.precision :=
      roundDiv_units_le hb hscaled
        (hhigh.trans_le (zpow_le_zpow_right₀ one_le_two (by omega)))
    refine nearest_of_units hf (holds_of_le hf hle (by omega) hgreatest)
      (abs_sub_units_le hb hscaled) ?_
    rcases le_total (floorLog2 num den - ((f.precision : Int) - 1))
      f.minExponent with hmin | hmin
    · exact .inl (by omega)
    · exact .inr (hlow.trans' (zpow_le_zpow_right₀ one_le_two (by omega)))

/-- The same with the sign and as a number. -/
theorem exists_nearest_value?_round (hf : f.Proper) (negative : Bool)
    (hden : 0 < den)
    (hsize : (num / den : ℚ)
      < 2 ^ (f.maxExponent + ((f.precision : Int) - 1))) :
    ∃ w, (f.round negative num den).value? = some w
      ∧ f.Nearest ((if negative then -1 else 1) * (num / den)) w := by
  obtain ⟨m, e, hround, hnearest⟩ :=
    exists_nearest_round hf negative hden hsize
  refine ⟨Binary.magnitude negative m e, by rw [hround]; rfl, ?_⟩
  cases negative with
  | false => simpa [Binary.magnitude] using hnearest
  | true => simpa [Binary.magnitude] using hnearest.neg

/-! ## Products and decimals -/

/-- A whole number times a power of a base is rounded to a nearest
value. -/
theorem exists_nearest_scaled (hf : f.Proper) (negative : Bool) {m b : Nat}
    {d : Int} (hb : 0 < b)
    (hsize : (m * b ^ d : ℚ)
      < 2 ^ (f.maxExponent + ((f.precision : Int) - 1))) :
    ∃ w, (if 0 ≤ d then f.round negative (m * Nat.pow b d.toNat) 1
        else f.round negative m (Nat.pow b (-d).toNat)).value? = some w
      ∧ f.Nearest ((if negative then -1 else 1) * (m * b ^ d)) w := by
  split
  · rename_i hsign
    obtain ⟨n, rfl⟩ := Int.eq_ofNat_of_zero_le hsign
    have hvalue : (m * b ^ (n : Int) : ℚ) = (m * b ^ n : Nat) / (1 : Nat) := by
      simp
    rw [hvalue] at hsize ⊢
    exact exists_nearest_value?_round hf negative one_pos hsize
  · obtain ⟨n, hn⟩ := Int.eq_ofNat_of_zero_le (by omega : 0 ≤ -d)
    obtain rfl : d = -(n : Int) := by omega
    have hvalue : (m * b ^ (-(n : Int)) : ℚ) = m / (b ^ n : Nat) := by
      simp [div_eq_mul_inv]
    rw [hvalue] at hsize ⊢
    rw [neg_neg, Int.toNat_natCast, Nat.pow_eq]
    exact exists_nearest_value?_round hf negative (by positivity) hsize

/-- A scaled significand is rounded to a nearest value. -/
theorem exists_nearest_roundScaled (hf : f.Proper) (negative : Bool)
    {m : Nat} {d : Int}
    (hsize : (m * 2 ^ d : ℚ)
      < 2 ^ (f.maxExponent + ((f.precision : Int) - 1))) :
    ∃ w, (f.roundScaled negative m d).value? = some w
      ∧ f.Nearest (Binary.magnitude negative m d) w := by
  rw [Binary.magnitude, mul_assoc]
  exact exists_nearest_scaled hf negative two_pos hsize

end Format

namespace Binary

theorem magnitude_mul (s t : Bool) (m n : Nat) (e d : Int) :
    magnitude s m e * magnitude t n d
      = magnitude (s != t) (m * n) (e + d) := by
  cases s <;> cases t <;> simp [magnitude, zpow_add₀] <;> ring

theorem abs_magnitude (negative : Bool) (m : Nat) (e : Int) :
    |magnitude negative m e| = m * 2 ^ e := by
  have hpow : (0 : ℚ) < 2 ^ e := zpow_pos two_pos e
  cases negative <;> simp [magnitude, abs_mul, abs_of_pos hpow]

/-- The product of two doubles is nearest to the product of their
values. -/
theorem exists_nearest_mul {x y : Double} {v w : ℚ}
    (hx : x.value? = some v) (hy : y.value? = some w)
    (hsize : |v * w| < 2 ^ (1023 : Int)) :
    ∃ z, (x.mul y).value? = some z ∧ Format.double.Nearest (v * w) z := by
  cases x with
  | nan => cases hx
  | infinity => cases hx
  | finite s m d =>
    cases y with
    | nan => cases hy
    | infinity => cases hy
    | finite t n k =>
      cases hx
      cases hy
      rw [magnitude_mul, abs_magnitude] at hsize
      rw [magnitude_mul]
      exact Format.exists_nearest_roundScaled Format.proper_double _ hsize

end Binary

theorem lt_pow_decimalLength (n : Nat) : n < 10 ^ decimalLength n := by
  fun_induction decimalLength n with
  | case1 n hn => simp_all
  | case2 n hn ih =>
    rw [Nat.pow_succ]
    omega

theorem pow_decimalLength_le {n : Nat} (h : n ≠ 0) :
    10 ^ decimalLength n ≤ n * 10 := by
  fun_induction decimalLength n with
  | case1 n hn => simp_all
  | case2 n hn ih =>
    rw [Nat.pow_succ]
    by_cases hzero : n / 10 = 0
    · rw [hzero, decimalLength]
      simp
      omega
    · have := ih hzero
      omega

/-- The first digit of a decimal is at the place of its power of ten. -/
theorem decimal_places {n : Nat} (hn : n ≠ 0) (exponent : Int) :
    (n * 10 ^ exponent : ℚ) < 10 ^ (decimalLength n + exponent)
      ∧ (10 : ℚ) ^ (decimalLength n + exponent - 1) ≤ n * 10 ^ exponent := by
  have hpower : (0 : ℚ) < 10 ^ exponent := zpow_pos (by norm_num) _
  have hbelow : (n : ℚ) < 10 ^ decimalLength n := by
    exact_mod_cast lt_pow_decimalLength n
  have habove : (10 : ℚ) ^ decimalLength n ≤ n * 10 := by
    exact_mod_cast pow_decimalLength_le hn
  rw [zpow_sub_one₀ (by norm_num), zpow_add₀ (by norm_num), zpow_natCast]
  constructor
  · gcongr
  · rw [← div_eq_mul_inv, div_le_iff₀ (by norm_num)]
    linarith [mul_le_mul_of_nonneg_right habove hpower.le]

theorem two_pow_le_ten_pow : (2 : ℚ) ^ (1000 : Int) ≤ 10 ^ (400 : Int) := by
  have hthousand : (2 : ℚ) ^ 10 ≤ 10 ^ 4 := by norm_num
  calc (2 : ℚ) ^ (1000 : Int) = (2 ^ 10) ^ 100 := by
        rw [← pow_mul, ← zpow_natCast]
        rfl
    _ ≤ (10 ^ 4) ^ 100 := pow_le_pow_left₀ (by positivity) hthousand 100
    _ = 10 ^ (400 : Int) := by
        rw [← pow_mul, ← zpow_natCast]
        rfl

/-- A decimal is read as a nearest double, when it is not close to the
least or the greatest of them. -/
theorem Format.exists_nearest_ofDecimal (negative : Bool) {n : Nat}
    {exponent : Int}
    (hlow : n = 0 ∨ (2 : ℚ) ^ (-1000 : Int) ≤ n * 10 ^ exponent)
    (hhigh : (n * 10 ^ exponent : ℚ) < 2 ^ (1000 : Int)) :
    ∃ w, (double.ofDecimal negative n exponent).value? = some w
      ∧ double.Nearest
          ((if negative then -1 else 1) * (n * 10 ^ exponent)) w := by
  have hten : (1 : ℚ) < 10 := by norm_num
  by_cases hn : n = 0
  · refine ⟨0, by simp [ofDecimal, hn, Binary.value?, Binary.magnitude], ?_⟩
    exact ⟨holds_zero proper_double, fun r _ => by simp [hn, abs_nonneg]⟩
  · -- the power of ten is formed, and one quotient is rounded
    obtain ⟨hbelow, habove⟩ := decimal_places hn exponent
    have hleast : -400 < decimalLength n + exponent := by
      refine (zpow_lt_zpow_iff_right₀ hten).mp ?_
      calc (10 : ℚ) ^ (-400 : Int) ≤ 2 ^ (-1000 : Int) := by
            rw [zpow_neg, zpow_neg]
            exact inv_anti₀ (zpow_pos two_pos _) two_pow_le_ten_pow
        _ ≤ n * 10 ^ exponent := hlow.resolve_left hn
        _ < 10 ^ (decimalLength n + exponent) := hbelow
    have hgreatest : decimalLength n + exponent - 1 < 400 :=
      (zpow_lt_zpow_iff_right₀ hten).mp
        ((habove.trans_lt hhigh).trans_le two_pow_le_ten_pow)
    simp only [ofDecimal, beq_iff_eq, hn, Bool.or_eq_true, false_or,
      decide_eq_true_eq]
    rw [if_neg (by omega), if_neg (by omega)]
    exact exists_nearest_scaled proper_double negative (by decide)
      (hhigh.trans_le (zpow_le_zpow_right₀ one_le_two (by decide)))

end PolicyWeave.Number
