import Mathlib.Algebra.Order.Floor.Semifield
import PolicyWeave.Proofs.Number.Nearest

/-!
# Exact results

A value of a format is nearest to itself only, so a result that a format
has comes out as it is.

* `Binary.truncate_eq_floor`: the integer part of a value.
* `Format.exists_nearest_ofNat`, and for the integers up to `2 ^ 53`, which
  are doubles, `Format.holds_natCast` and `Format.value?_ofNat`.
-/

namespace PolicyWeave.Number

/-- The integer part of a value is the greatest whole number that is not
above it, and zero for negative values. -/
theorem Binary.truncate_eq_floor {x : Binary} {v : ℚ} (limit : Nat)
    (h : x.value? = some v) : x.truncate limit = min limit ⌊v⌋₊ := by
  cases x with
  | nan => cases h
  | infinity => cases h
  | finite s m e =>
    obtain rfl : magnitude s m e = v := by simpa [value?] using h
    cases s with
    | true =>
      have hneg : magnitude true m e ≤ 0 := by
        have hpow : (0 : ℚ) < 2 ^ e := zpow_pos two_pos e
        simp only [magnitude, ↓reduceIte, neg_mul, one_mul]
        exact neg_nonpos.mpr (by positivity)
      simp [truncate, Nat.floor_of_nonpos hneg]
    | false =>
      simp only [truncate, magnitude, Bool.false_eq_true, ↓reduceIte,
        one_mul, Nat.pow_eq]
      congr 1
      split
      · rename_i hsign
        obtain ⟨k, rfl⟩ := Int.eq_ofNat_of_zero_le hsign
        rw [zpow_natCast]
        exact_mod_cast (Nat.floor_natCast (m * 2 ^ k)).symm
      · obtain ⟨k, hk⟩ := Int.eq_ofNat_of_zero_le (by omega : 0 ≤ -e)
        obtain rfl : e = -(k : Int) := by omega
        rw [zpow_neg, zpow_natCast, ← div_eq_mul_inv, neg_neg,
          Int.toNat_natCast]
        exact_mod_cast (Nat.floor_div_eq_div (K := ℚ) m (2 ^ k)).symm

/-! ## Whole numbers -/

theorem natCast_lt {n : Nat} (h : n ≤ 2 ^ 53) :
    (n : ℚ) < 2 ^ (1000 : Int) := by
  calc (n : ℚ) ≤ 2 ^ 53 := by exact_mod_cast h
    _ < 2 ^ (54 : Int) := by norm_num
    _ ≤ 2 ^ (1000 : Int) := zpow_le_zpow_right₀ one_le_two (by decide)

namespace Format

/-- A natural number is rounded to a nearest double. -/
theorem exists_nearest_ofNat {n : Nat} (h : (n : ℚ) < 2 ^ (1023 : Int)) :
    ∃ w, (double.ofNat n).value? = some w ∧ double.Nearest n w := by
  have hvalue : (n : ℚ) / (1 : Nat) = n := by simp
  rw [← hvalue] at h
  obtain ⟨w, hw, hnearest⟩ :=
    exists_nearest_value?_round proper_double false one_pos h
  rw [if_neg (by decide), one_mul, hvalue] at hnearest
  exact ⟨w, hw, hnearest⟩

variable {n : Nat} (h : n ≤ 2 ^ 53)

include h

/-- The integers up to `2 ^ 53` are doubles. -/
theorem holds_natCast : double.Holds n := by
  have hholds := holds_of_le (e := 0) proper_double h (by decide) (by decide)
  rwa [zpow_zero, mul_one] at hholds

theorem value?_ofNat : (double.ofNat n).value? = some (n : ℚ) := by
  obtain ⟨w, hw, hnearest⟩ := exists_nearest_ofNat
    ((natCast_lt h).trans_le (zpow_le_zpow_right₀ one_le_two (by decide)))
  rw [hw, hnearest.eq_of_holds (holds_natCast h)]

end Format

end PolicyWeave.Number
