import Mathlib.Algebra.Order.Field.Power
import Mathlib.Data.Rat.Cast.Order
import Mathlib.Tactic.Linarith
import Mathlib.Tactic.NormNum
import Mathlib.Tactic.Ring
import PolicyWeave.Contract.Validation

/-!
# The values of floating-point numbers

Floating-point values are compared as integers, scaled to the lesser of
two exponents.  Here a finite value is the rational number that it stands
for, and the comparisons are those of rational numbers.

* `Binary.units_mul_scale`: the scaled integer is the value.
* `Binary.lt_iff` and `Binary.le_iff` on finite values.
* `isPercent_iff`: a percentage is in range exactly if it is finite and
  its value is from zero on and below one hundred.
-/

namespace PolicyWeave.Number.Binary

/-- The rational number that a sign, a significand and an exponent stand
for. -/
def magnitude (negative : Bool) (m : Nat) (e : Int) : ℚ :=
  (if negative then -1 else 1) * m * 2 ^ e

/-- The rational number that a finite value stands for. -/
def value? : Binary → Option ℚ
  | .nan => none
  | .infinity _ => none
  | .finite negative m e => some (magnitude negative m e)

/-- Scaled to an exponent at or below its own, a value is an integer. -/
theorem units_mul_scale (negative : Bool) (m : Nat) {e scale : Int}
    (h : scale ≤ e) :
    (units negative m e scale : ℚ) * 2 ^ scale = magnitude negative m e := by
  obtain ⟨k, rfl⟩ := Int.le.dest h
  have hpow : (2 : ℚ) ^ (scale + (k : Int)) = 2 ^ k * 2 ^ scale := by
    rw [zpow_add₀ two_ne_zero, zpow_natCast, mul_comm]
  have hshift : (scale + (k : Int) - scale).toNat = k := by omega
  cases negative
  all_goals
    simp only [units, magnitude, hshift, hpow, Nat.pow_eq]
    push_cast
    ring

/-- Scaled integers are in the order of the values. -/
theorem units_lt_units (s t : Bool) (m n : Nat) (e d : Int) :
    units s m e (min e d) < units t n d (min e d)
      ↔ magnitude s m e < magnitude t n d := by
  have hscale : (0 : ℚ) < 2 ^ min e d := zpow_pos two_pos _
  rw [← units_mul_scale s m (min_le_left e d),
    ← units_mul_scale t n (min_le_right e d),
    mul_lt_mul_iff_of_pos_right hscale, Int.cast_lt]

theorem units_eq_units (s t : Bool) (m n : Nat) (e d : Int) :
    units s m e (min e d) = units t n d (min e d)
      ↔ magnitude s m e = magnitude t n d := by
  have hscale : (2 : ℚ) ^ min e d ≠ 0 := zpow_ne_zero _ two_ne_zero
  rw [← units_mul_scale s m (min_le_left e d),
    ← units_mul_scale t n (min_le_right e d),
    mul_left_inj' hscale, Int.cast_inj]

variable {x y : Binary} {v w : ℚ}

theorem lt_iff (hx : x.value? = some v) (hy : y.value? = some w) :
    x.lt y = true ↔ v < w := by
  cases x with
  | nan => cases hx
  | infinity => cases hx
  | finite s m e =>
    cases y with
    | nan => cases hy
    | infinity => cases hy
    | finite t n d =>
      cases hx
      cases hy
      simpa [lt] using units_lt_units s t m n e d

theorem le_iff (hx : x.value? = some v) (hy : y.value? = some w) :
    x.le y = true ↔ v ≤ w := by
  have hlt := lt_iff hx hy
  cases x with
  | nan => cases hx
  | infinity => cases hx
  | finite s m e =>
    cases y with
    | nan => cases hy
    | infinity => cases hy
    | finite t n d =>
      cases hx
      cases hy
      have heq := units_eq_units s t m n e d
      simp only [le, Bool.or_eq_true, hlt, numEq, beq_iff_eq, heq]
      exact le_iff_lt_or_eq.symm

end PolicyWeave.Number.Binary

namespace PolicyWeave

open Number

/-- A number in the range of percentages: finite, from zero on and below
one hundred. -/
def InPercentRange (x : Double) : Prop :=
  ∃ v : ℚ, x.value? = some v ∧ 0 ≤ v ∧ v < 100

theorem value?_zero : Binary.zero.value? = some 0 := by
  simp [Binary.zero, Binary.value?, Binary.magnitude]

theorem value?_hundred : hundred.value? = some 100 := by
  have hhundred : hundred = .finite false 7036874417766400 (-46) := by
    decide +kernel
  rw [hhundred]
  norm_num [Binary.value?, Binary.magnitude]

theorem isPercent_iff (x : Double) :
    isPercent x = true ↔ InPercentRange x := by
  rw [isPercent, Bool.and_eq_true]
  cases hvalue : x.value? with
  | none =>
    simp only [InPercentRange, hvalue]
    cases x with
    | nan => simp [Binary.lt]
    | infinity s =>
      -- an infinity is above one hundred or below zero
      cases s <;> decide +kernel
    | finite => cases hvalue
  | some v =>
    simp [InPercentRange, hvalue, Binary.le_iff value?_zero hvalue,
      Binary.lt_iff hvalue value?_hundred]

end PolicyWeave
