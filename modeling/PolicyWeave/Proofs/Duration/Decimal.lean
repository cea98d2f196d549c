import PolicyWeave.Proofs.Duration.Texts
import PolicyWeave.Proofs.Number.Exact
import PolicyWeave.Proofs.Number.Numerals

/-!
# Decimal durations

The number of a duration text is rounded to a double, its product with the
unit is rounded once more, and what is behind the point of the product is
cut off.  A product just below a whole number loses a millisecond so.

* `Duration.decimalValue` is the number that a text spells, and
  `Duration.exists_numeral` finds it in the numeral that is read.
* `Duration.Rounded` holds the two roundings.
  `Duration.Rounded.abs_sub_lt` says how far they are from whole
  milliseconds, and `Duration.Rounded.eq_of_holds` when they are exact.
* `Duration.parse?_decimal`: which texts of whole milliseconds are read as
  that many, and how many the others are.
* `Duration.parse?_format`: the text of at most `2 ^ 53` milliseconds has no
  point, and reads back as that many.
-/

namespace PolicyWeave

open Number

namespace Duration

variable {t number cs : List Char} {u : TimeUnit}

/-! ## The number of a text -/

/-- The rational number that digits around a point spell. -/
def decimalValue (cs : List Char) : ℚ :=
  let whole := cs.takeWhile (· != '.')
  let fraction := (cs.dropWhile (· != '.')).drop 1
  digitsValue whole + digitsValue fraction / 10 ^ fraction.length

/-- A number is digits, or digits around a point. -/
theorem IsNumber.cases (h : IsNumber cs) :
    (∀ c ∈ cs, c.isDigit = true) ∨ ∃ whole fraction,
      cs = whole ++ '.' :: fraction ∧ (∀ c ∈ whole, c.isDigit = true)
        ∧ ∀ c ∈ fraction, c.isDigit = true := by
  by_cases hpoint : '.' ∈ cs
  · obtain ⟨whole, fraction, rfl⟩ := List.append_of_mem hpoint
    have hone := h.point
    rw [List.count_append, List.count_cons_self] at hone
    have hwhole : '.' ∉ whole := List.count_eq_zero.mp (by omega)
    have hfraction : '.' ∉ fraction := List.count_eq_zero.mp (by omega)
    refine .inr ⟨whole, fraction, rfl, fun c hc => ?_, fun c hc => ?_⟩
    · exact (h.chars c (by simp [hc])).resolve_right
        (fun heq => hwhole (heq ▸ hc))
    · exact (h.chars c (by simp [hc])).resolve_right
        (fun heq => hfraction (heq ▸ hc))
  · exact .inl fun c hc =>
      (h.chars c hc).resolve_right fun heq => hpoint (heq ▸ hc)

theorem ne_point_of_isDigit (h : ∀ c ∈ cs, c.isDigit = true) :
    ∀ c ∈ cs, (c != '.') = true := by
  intro c hc
  have hdigit := h c hc
  refine bne_iff_ne.mpr ?_
  rintro rfl
  exact absurd hdigit (by decide)

theorem decimalValue_digits (h : ∀ c ∈ cs, c.isDigit = true) :
    decimalValue cs = digitsValue cs := by
  have hpoint := ne_point_of_isDigit h
  rw [decimalValue, List.takeWhile_eq_self_iff.mpr hpoint,
    List.dropWhile_eq_nil_iff.mpr hpoint]
  simp

theorem decimalValue_point {whole fraction : List Char}
    (h : ∀ c ∈ whole, c.isDigit = true) :
    decimalValue (whole ++ '.' :: fraction)
      = digitsValue whole
        + digitsValue fraction / 10 ^ fraction.length := by
  have hpoint := ne_point_of_isDigit h
  rw [decimalValue, Text.takeWhile_append_of_head hpoint (by simp),
    Text.dropWhile_append_of_head hpoint (by simp)]
  rfl

theorem spanDigits_append {digits rest : List Char}
    (hdigits : ∀ c ∈ digits, c.isDigit = true)
    (hrest : ∀ c ∈ rest.head?, c.isDigit = false) :
    spanDigits (digits ++ rest) = (digits, rest) := by
  rw [spanDigits, List.span_eq_takeWhile_dropWhile,
    Text.takeWhile_append_of_head hdigits hrest,
    Text.dropWhile_append_of_head hdigits hrest]

/-- Digits are a numeral without a fraction and an exponent. -/
theorem scanNumeral_digits {whole : List Char}
    (hwhole : ∀ c ∈ whole, c.isDigit = true) :
    scanNumeral whole = (⟨whole, none, none⟩, []) := by
  have hspan : spanDigits (whole ++ []) = (whole, []) :=
    spanDigits_append hwhole (by simp)
  rw [List.append_nil] at hspan
  simp [scanNumeral, hspan, scanExponent]

/-- Digits around a point are a numeral without an exponent. -/
theorem scanNumeral_point {whole fraction : List Char}
    (hwhole : ∀ c ∈ whole, c.isDigit = true)
    (hfraction : ∀ c ∈ fraction, c.isDigit = true) :
    scanNumeral (whole ++ '.' :: fraction)
      = (⟨whole, some fraction, none⟩, []) := by
  have hspan : spanDigits (whole ++ '.' :: fraction)
      = (whole, '.' :: fraction) := spanDigits_append hwhole (by simp)
  have hrest : spanDigits (fraction ++ []) = (fraction, []) :=
    spanDigits_append hfraction (by simp)
  rw [List.append_nil] at hrest
  simp [scanNumeral, hspan, hrest, scanExponent]

/-- The numeral of a number is read as the double nearest to a whole number
over a power of ten, and that quotient is what the number spells. -/
theorem exists_numeral (h : IsNumber number) :
    ∃ n k : Nat,
      (scanNumeral number).1.toDouble false
          = Format.double.ofDecimal false n (-(k : Int))
        ∧ decimalValue number = n * 10 ^ (-(k : Int)) := by
  rcases h.cases with hdigits | ⟨whole, fraction, rfl, hwhole, hfraction⟩
  · refine ⟨digitsValue number, 0, ?_, ?_⟩
    · simp [scanNumeral_digits hdigits, Numeral.toDouble,
        Numeral.toBinary, Numeral.digits, Numeral.scale]
    · simp [decimalValue_digits hdigits]
  · refine ⟨digitsValue (whole ++ fraction), fraction.length, ?_, ?_⟩
    · simp [scanNumeral_point hwhole hfraction, Numeral.toDouble,
        Numeral.toBinary, Numeral.digits, Numeral.scale]
    · rw [decimalValue_point hwhole, digitsValue_append, zpow_neg,
        zpow_natCast]
      push_cast
      field_simp

/-! ## The two roundings -/

theorem TimeUnit.size_le (u : TimeUnit) : u.size ≤ 2 ^ 27 := by
  cases u <;> decide

theorem decimalValue_nonneg (cs : List Char) : 0 ≤ decimalValue cs := by
  unfold decimalValue
  positivity

/-- The double `y` that a number is read as, and the double `z` that its
product with the unit is rounded to. -/
structure Rounded (number : List Char) (u : TimeUnit) (y z : ℚ) : Prop where
  read : ∃ x, number? number = some x ∧ x.value? = some y
    ∧ (x.mul (Format.double.ofNat u.size)).value? = some z
  first : Format.double.Nearest (decimalValue number) y
  second : Format.double.Nearest (y * u.size) z

theorem ofMilliseconds_min (n : Nat) :
    ofMilliseconds (min (UInt64.size - 1) n) = ofMilliseconds n := by
  simp only [ofMilliseconds, Duration.mk.injEq]
  omega

section

variable {N : Nat} (hN : decimalValue number * u.size = N)
  (hbound : N ≤ 2 ^ 53)

include hN hbound

/-- A number of units is not more than their milliseconds, and not close to
zero. -/
theorem decimalValue_bounds :
    decimalValue number ≤ 2 ^ 53
      ∧ (N = 0 ∧ decimalValue number = 0
        ∨ 0 < N ∧ 2 ^ (-27 : Int) ≤ decimalValue number) := by
  have hnonneg := decimalValue_nonneg number
  have hpos : (1 : ℚ) ≤ u.size := by exact_mod_cast u.size_pos
  have hsize : (u.size : ℚ) ≤ 2 ^ (27 : Int) := by exact_mod_cast u.size_le
  have hN' : (N : ℚ) ≤ 2 ^ 53 := by exact_mod_cast hbound
  refine ⟨?_, ?_⟩
  · linarith [le_mul_of_one_le_right hnonneg hpos]
  · rcases Nat.eq_zero_or_pos N with hzero | hone
    · refine .inl ⟨hzero, ?_⟩
      rw [hzero, Nat.cast_zero] at hN
      exact (mul_eq_zero.mp hN).resolve_right (by linarith)
    · refine .inr ⟨hone, ?_⟩
      have hone' : (1 : ℚ) ≤ N := by exact_mod_cast hone
      rw [zpow_neg, inv_le_iff_one_le_mul₀ (zpow_pos two_pos _)]
      linarith [mul_le_mul_of_nonneg_left hsize hnonneg]

/-- The number is read as a nearest double. -/
theorem exists_nearest_toDouble (h : IsNumber number) :
    ∃ y, ((scanNumeral number).1.toDouble false).value? = some y
      ∧ Format.double.Nearest (decimalValue number) y := by
  obtain ⟨n, k, hread, hvalue⟩ := exists_numeral h
  obtain ⟨hhigh, hlow⟩ := decimalValue_bounds hN hbound
  have hleast : n = 0
      ∨ (2 : ℚ) ^ (-1000 : Int) ≤ n * 10 ^ (-(k : Int)) := by
    rw [← hvalue]
    rcases hlow with ⟨-, hzero⟩ | ⟨-, hlow⟩
    · left
      have hpower : (10 : ℚ) ^ (-(k : Int)) ≠ 0 :=
        zpow_ne_zero _ (by norm_num)
      rw [hvalue] at hzero
      exact_mod_cast (mul_eq_zero.mp hzero).resolve_right hpower
    · exact .inr
        ((zpow_le_zpow_right₀ one_le_two (by decide)).trans hlow)
  have hgreatest : (n * 10 ^ (-(k : Int)) : ℚ) < 2 ^ (1000 : Int) := by
    rw [← hvalue]
    exact hhigh.trans_lt (by exact_mod_cast natCast_lt le_rfl)
  obtain ⟨y, hy, hnearest⟩ :=
    Format.exists_nearest_ofDecimal false hleast hgreatest
  rw [if_neg (by decide), one_mul, ← hvalue] at hnearest
  exact ⟨y, hread ▸ hy, hnearest⟩

/-- Reading a number of whole milliseconds makes two roundings, and cuts
off what is behind the point. -/
theorem exists_rounded (h : IsNumber number) :
    ∃ y z, Rounded number u y z
      ∧ ofUnits ((scanNumeral number).1.toDouble false) u
        = ofMilliseconds ⌊z⌋₊ := by
  obtain ⟨y, hy, hfirst⟩ := exists_nearest_toDouble hN hbound h
  have hnonneg : 0 ≤ y := hfirst.le_of_holds
    (Format.holds_zero Format.proper_double) (decimalValue_nonneg number)
  have hle : y ≤ (2 ^ 53 : Nat) :=
    hfirst.le_of_le_holds (Format.holds_natCast le_rfl)
      (by exact_mod_cast (decimalValue_bounds hN hbound).1)
  have hproduct : |y * u.size| < 2 ^ (1023 : Int) := by
    rw [abs_of_nonneg (by positivity)]
    calc y * u.size ≤ (2 ^ 53 : Nat) * (2 ^ 27 : Nat) := by
          gcongr
          exact u.size_le
      _ < 2 ^ (81 : Int) := by norm_num
      _ ≤ 2 ^ (1023 : Int) := zpow_le_zpow_right₀ one_le_two (by decide)
  obtain ⟨z, hz, hsecond⟩ := Binary.exists_nearest_mul hy
    (Format.value?_ofNat (u.size_le.trans (by decide))) hproduct
  refine ⟨y, z, ⟨⟨_, h.number?_eq, hy, hz⟩, hfirst, hsecond⟩, ?_⟩
  rw [ofUnits, Binary.truncate_eq_floor _ hz, ofMilliseconds_min]

variable {y z : ℚ}

/-- The first rounding is off by less than the last place. -/
theorem Rounded.abs_sub_lt (h : Rounded number u y z) (hpos : 0 < N) :
    |y * u.size - N| < N / 2 ^ 53 := by
  obtain ⟨hhigh, hlow⟩ := decimalValue_bounds hN hbound
  have hlow := (hlow.resolve_left (by omega)).2
  have herror : |decimalValue number - y| < decimalValue number / 2 ^ 53 := by
    refine h.first.abs_sub_lt Format.proper_double ?_ ?_
    · exact (zpow_le_zpow_right₀ one_le_two (by decide)).trans hlow
    · calc decimalValue number ≤ (2 ^ 53 : Nat) := by exact_mod_cast hhigh
        _ < 2 ^ (1000 : Int) := natCast_lt le_rfl
        _ ≤ 2 ^ (1023 : Int) := zpow_le_zpow_right₀ one_le_two (by decide)
  have hsize : (0 : ℚ) < u.size := by exact_mod_cast u.size_pos
  calc |y * u.size - N| = |decimalValue number - y| * u.size := by
        rw [← hN, ← sub_mul, abs_mul, abs_of_pos hsize, abs_sub_comm]
    _ < decimalValue number / 2 ^ 53 * u.size := by gcongr
    _ = N / 2 ^ 53 := by rw [← hN, mul_div_right_comm]

theorem Rounded.eq_of_holds (h : Rounded number u y z)
    (hv : Format.double.Holds (decimalValue number)) : z = N := by
  have hy := h.first.eq_of_holds hv
  have hsecond := h.second
  rw [hy, hN] at hsecond
  exact hsecond.eq_of_holds (Format.holds_natCast hbound)

theorem Rounded.eq_zero (h : Rounded number u y z) (hzero : N = 0) :
    z = 0 := by
  have hnumber := ((decimalValue_bounds hN hbound).2.resolve_right
    (by omega)).2
  rw [h.eq_of_holds hN hbound
    (hnumber ▸ Format.holds_zero Format.proper_double), hzero, Nat.cast_zero]

/-- After both roundings the product is off by less than two last
places. -/
theorem Rounded.abs_sub_lt_second (h : Rounded number u y z)
    (hpos : 0 < N) : |z - N| < N / 2 ^ 52 := by
  have hfirst := h.abs_sub_lt hN hbound hpos
  have hsecond := h.second.closest N (Format.holds_natCast hbound)
  calc |z - N| ≤ |z - y * u.size| + |y * u.size - N| := abs_sub_le ..
    _ ≤ |y * u.size - N| + |y * u.size - N| := by
        rw [abs_sub_comm z]
        gcongr
    _ < N / 2 ^ 53 + N / 2 ^ 53 := by gcongr
    _ = N / 2 ^ 52 := by ring

/-- The product is not below the whole number in front of the right
one. -/
theorem Rounded.pred_le (h : Rounded number u y z) : (N - 1 : Nat) ≤ z := by
  rcases Nat.eq_zero_or_pos N with hzero | hpos
  · rw [h.eq_zero hN hbound hzero, hzero]
    rfl
  · have hfirst := (abs_lt.mp (h.abs_sub_lt hN hbound hpos)).1
    have hone : (N / 2 ^ 53 : ℚ) ≤ 1 := by
      rw [div_le_one (by positivity)]
      exact_mod_cast hbound
    refine h.second.le_of_holds (Format.holds_natCast (by omega)) ?_
    rw [Nat.cast_pred hpos]
    linarith

/-- The product is not `c` whole numbers above the right one. -/
theorem Rounded.lt_add (h : Rounded number u y z) {c : Nat} (hc : 0 < c)
    (hsmall : N ≤ c * 2 ^ 52) : z < (N + c : Nat) := by
  have hc' : (0 : ℚ) < c := by exact_mod_cast hc
  push_cast
  rcases Nat.eq_zero_or_pos N with hzero | hpos
  · rw [h.eq_zero hN hbound hzero, hzero, Nat.cast_zero, zero_add]
    exact hc'
  · have hsecond := (abs_lt.mp (h.abs_sub_lt_second hN hbound hpos)).2
    have hle : (N / 2 ^ 52 : ℚ) ≤ c := by
      rw [div_le_iff₀ (by positivity)]
      exact_mod_cast hsmall
    linarith

end

/-! ## Whole milliseconds -/

theorem ofMilliseconds_inj {m n : Nat} (hm : m < UInt64.size)
    (hn : n < UInt64.size) :
    ofMilliseconds m = ofMilliseconds n ↔ m = n := by
  simp only [ofMilliseconds, Duration.mk.injEq]
  omega

/-- A text whose number is a double is read as its milliseconds. -/
theorem parse?_of_holds {s : String} {N : Nat}
    (hs : Spelled (Text.trim s.toList) number u)
    (hN : decimalValue number * u.size = N) (hbound : N ≤ 2 ^ 53)
    (hv : Format.double.Holds (decimalValue number)) :
    parse? s = some (ofMilliseconds N) := by
  obtain ⟨y, z, h, hunits⟩ := exists_rounded hN hbound hs.1
  rw [parse?, parseTrimmed?_of_spelled hs, hunits, h.eq_of_holds hN hbound hv,
    Nat.floor_natCast]

/-- A text of `N` whole milliseconds is read as the whole part of a product
that two roundings have moved.  It is read as `N` exactly if the product is
not moved over a whole number, and always if the number of the text is a
double.  One millisecond may be lost; none is gained up to `2 ^ 52`. -/
theorem parse?_decimal {s : String} {N : Nat}
    (hs : Spelled (Text.trim s.toList) number u)
    (hN : decimalValue number * u.size = N) (hbound : N ≤ 2 ^ 53) :
    ∃ y z, Rounded number u y z
      ∧ parse? s = some (ofMilliseconds ⌊z⌋₊)
      ∧ (parse? s = some (ofMilliseconds N) ↔ (N : ℚ) ≤ z ∧ z < N + 1)
      ∧ N ≤ ⌊z⌋₊ + 1 ∧ ⌊z⌋₊ ≤ N + 1
      ∧ (N ≤ 2 ^ 52 → ⌊z⌋₊ ≤ N)
      ∧ (0 < N → |z - N| < N / 2 ^ 52)
      ∧ (Format.double.Holds (decimalValue number) →
          parse? s = some (ofMilliseconds N)) := by
  obtain ⟨y, z, h, hunits⟩ := exists_rounded hN hbound hs.1
  have hparse : parse? s = some (ofMilliseconds ⌊z⌋₊) := by
    rw [parse?, parseTrimmed?_of_spelled hs, hunits]
  have hpred := h.pred_le hN hbound
  have hnonneg : 0 ≤ z := (Nat.cast_nonneg _).trans hpred
  have hlow := Nat.le_floor hpred
  have hhigh {c : Nat} (hc : 0 < c) (hsmall : N ≤ c * 2 ^ 52) :
      ⌊z⌋₊ < N + c :=
    (Nat.floor_lt hnonneg).mpr (h.lt_add hN hbound hc hsmall)
  have hfloor := hhigh two_pos (by omega)
  have hsize : (2 : Nat) ^ 53 + 2 < UInt64.size := by decide
  refine ⟨y, z, h, hparse, ?_, by omega, by omega,
    fun hsmall => ?_, h.abs_sub_lt_second hN hbound,
    parse?_of_holds hs hN hbound⟩
  · rw [hparse, Option.some_inj, ofMilliseconds_inj (by omega) (by omega)]
    exact Nat.floor_eq_iff hnonneg
  · have := hhigh one_pos (by omega)
    omega

/-- Three halves are a double, so a second and a half is exact. -/
theorem parse?_decimal_half :
    ∃ y z, Rounded "1.5".toList .second y z
      ∧ |z - (1500 : Nat)| < (1500 : Nat) / 2 ^ 52
      ∧ parse? "1.5s" = some (ofMilliseconds 1500) := by
  have hs : Spelled (Text.trim "1.5s".toList) "1.5".toList .second :=
    ⟨by decide +kernel, [], Text.blank_nil, by decide +kernel⟩
  have hN : decimalValue "1.5".toList * TimeUnit.second.size
      = (1500 : Nat) := by decide +kernel
  have hholds : Format.double.Holds (decimalValue "1.5".toList) :=
    ⟨3, -1, by decide, by decide, by decide, by decide +kernel⟩
  obtain ⟨y, z, h, -, -, -, -, -, herror, hexact⟩ :=
    parse?_decimal hs hN (by decide)
  exact ⟨y, z, h, herror (by decide), hexact hholds⟩

/-- Four minutes and six seconds lose a millisecond when they are written
as minutes: the product of the doubles is just below the whole number. -/
theorem millisecond_lost :
    Spelled (Text.trim "4.1m".toList) "4.1".toList .minute
      ∧ decimalValue "4.1".toList * TimeUnit.minute.size = (246000 : Nat)
      ∧ 246000 ≤ 2 ^ 53
      ∧ parse? "4.1m" = some (ofMilliseconds 245999)
      ∧ parse? "4.1m" ≠ some (ofMilliseconds 246000) := by
  refine ⟨⟨?_, [], Text.blank_nil, ?_⟩, ?_, ?_, ?_, ?_⟩
  all_goals decide +kernel

/-! ## Whole numbers of units -/

theorem isNumber_digitChars (n : Nat) : IsNumber (digitChars n) := by
  have hdigits := isDigit_of_mem_digitChars (n := n)
  obtain ⟨c, hc⟩ := List.exists_mem_of_ne_nil _ (digitChars_ne_nil n)
  refine ⟨fun c hc => .inl (hdigits c hc), ⟨c, hc, hdigits c hc⟩, ?_⟩
  rw [List.count_eq_zero.mpr fun hpoint => ?_]
  · exact Nat.zero_le 1
  · exact absurd (hdigits _ hpoint) (by decide)

/-- A number of units in digits reads as that many milliseconds. -/
theorem parse?_natText_symbol {k : Nat} (h : k * u.size ≤ 2 ^ 53) :
    parse? (natText k ++ u.symbol) = some (ofMilliseconds (k * u.size)) := by
  have hs : Spelled (natText k ++ u.symbol).toList (digitChars k) u :=
    ⟨isNumber_digitChars k, [], Text.blank_nil, by simp [natText]⟩
  have hvalue : decimalValue (digitChars k) = k := by
    rw [decimalValue_digits isDigit_of_mem_digitChars,
      digitsValue_digitChars]
  have hk : k ≤ 2 ^ 53 := (Nat.le_mul_of_pos_right k u.size_pos).trans h
  rw [← hs.trim_eq] at hs
  refine parse?_of_holds hs ?_ h ?_
  · rw [hvalue, Nat.cast_mul]
  · rw [hvalue]
    exact Format.holds_natCast hk

/-- The text of a duration reads back as its whole milliseconds. -/
theorem parse?_format {d : Duration} (h : d.milliseconds ≤ 2 ^ 53) :
    parse? d.format = some (ofMilliseconds d.milliseconds) := by
  have hunits : d.milliseconds / (largestUnit d.milliseconds).size
      * (largestUnit d.milliseconds).size = d.milliseconds :=
    Nat.div_mul_cancel (size_largestUnit_dvd d.milliseconds)
  rw [format, parse?_natText_symbol (by rwa [hunits]), hunits]

end Duration

end PolicyWeave
