import Mathlib.Tactic.Ring
import PolicyWeave.Number.Layout
import PolicyWeave.Number.Reading

/-!
# Numerals and their numbers

`digitsValue` reads back what `digitChars` writes, so two integers with
one text are one integer.
-/

namespace PolicyWeave.Number

/-! ## Digits -/

theorem digitValue_ofNat {d : Nat} (h : d < 10) :
    digitValue (Char.ofNat (48 + d)) = d := by
  have hall : ∀ d < 10, digitValue (Char.ofNat (48 + d)) = d := by decide
  exact hall d h

theorem isDigit_ofNat {d : Nat} (h : d < 10) :
    (Char.ofNat (48 + d)).isDigit = true := by
  have hall : ∀ d < 10, (Char.ofNat (48 + d)).isDigit = true := by decide
  exact hall d h

@[simp] theorem digitsValue_nil : digitsValue [] = 0 := rfl

theorem digitsValueFrom_cons (acc : Nat) (c : Char) (cs : List Char) :
    digitsValueFrom acc (c :: cs)
      = digitsValueFrom (10 * acc + digitValue c) cs := by
  rfl

theorem digitsValueFrom_append (acc : Nat) (cs ds : List Char) :
    digitsValueFrom acc (cs ++ ds)
      = digitsValueFrom (digitsValueFrom acc cs) ds := by
  induction cs generalizing acc with
  | nil => rfl
  | cons c cs ih =>
    rw [List.cons_append, digitsValueFrom_cons, digitsValueFrom_cons, ih]

/-- Digits in front count a power of ten for each digit behind them. -/
theorem digitsValueFrom_eq (acc : Nat) (cs : List Char) :
    digitsValueFrom acc cs = acc * 10 ^ cs.length + digitsValue cs := by
  induction cs generalizing acc with
  | nil => exact (Nat.mul_one acc).symm
  | cons c cs ih =>
    have hfirst : digitsValue (c :: cs)
        = digitValue c * 10 ^ cs.length + digitsValue cs := by
      rw [digitsValue, digitsValueFrom_cons, ih, Nat.mul_zero, Nat.zero_add]
    rw [digitsValueFrom_cons, ih, hfirst, List.length_cons]
    ring

theorem digitsValue_append (cs ds : List Char) :
    digitsValue (cs ++ ds)
      = digitsValue cs * 10 ^ ds.length + digitsValue ds := by
  rw [digitsValue, digitsValueFrom_append, digitsValueFrom_eq]
  rfl

/-- The digits of a number spell it. -/
theorem digitsValue_digitChars (n : Nat) :
    digitsValue (digitChars n) = n := by
  fun_induction digitChars n with
  | case1 n hn =>
    rw [digitsValue, digitsValueFrom_cons, digitValue_ofNat hn]
    exact Nat.zero_add n
  | case2 n hn ih =>
    have hlast : digitValue (Char.ofNat (48 + n % 10)) = n % 10 :=
      digitValue_ofNat (Nat.mod_lt n (by omega))
    have hfront : digitsValueFrom 0 (digitChars (n / 10)) = n / 10 := ih
    rw [digitsValue, digitsValueFrom_append, hfront,
      digitsValueFrom_cons, hlast]
    exact Nat.div_add_mod n 10

theorem digitChars_ne_nil (n : Nat) : digitChars n ≠ [] := by
  unfold digitChars
  split <;> simp

theorem isDigit_of_mem_digitChars {n : Nat} :
    ∀ c ∈ digitChars n, c.isDigit = true := by
  fun_induction digitChars n with
  | case1 n hn => simpa using isDigit_ofNat hn
  | case2 n hn ih =>
    intro c hc
    rcases List.mem_append.mp hc with hc | hc
    · exact ih c hc
    · obtain rfl : c = Char.ofNat (48 + n % 10) := by simpa using hc
      exact isDigit_ofNat (Nat.mod_lt n (by omega))

/-! ## Texts -/

/-- A natural number is known from its text. -/
theorem natText_inj {m n : Nat} : natText m = natText n ↔ m = n := by
  constructor
  · intro h
    rw [← digitsValue_digitChars m, String.ofList_inj.mp h,
      digitsValue_digitChars]
  · rintro rfl
    rfl

/-- The text of a natural number has no sign. -/
theorem natText_ne_minus (m : Nat) (s : String) :
    natText m ≠ "-" ++ s := by
  intro h
  have hchars : digitChars m = '-' :: s.toList := by
    simpa [natText] using congrArg String.toList h
  have hminus := isDigit_of_mem_digitChars (n := m) '-' (by simp [hchars])
  exact absurd hminus (by decide)

/-- An integer is known from its text. -/
theorem intText_inj {m n : Int} : intText m = intText n ↔ m = n := by
  constructor
  · intro h
    unfold intText at h
    split at h
    · split at h
      · have habs : m.natAbs = n.natAbs :=
          natText_inj.mp (String.append_right_inj "-" |>.mp h)
        omega
      · exact absurd h.symm (natText_ne_minus _ _)
    · split at h
      · exact absurd h (natText_ne_minus _ _)
      · have habs : m.natAbs = n.natAbs := natText_inj.mp h
        omega
  · rintro rfl
    rfl

end PolicyWeave.Number
