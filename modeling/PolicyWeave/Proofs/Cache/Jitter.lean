import PolicyWeave.Cache.Jitter
import PolicyWeave.Proofs.Duration.Seconds
import PolicyWeave.Sample.Contracts

/-!
# Jitter between its bounds

The bounds of a jittered time to live are computed in seconds.  The upper one
may be `2 ^ 64` seconds or more, which no duration can hold; nothing else can
go wrong.

There are four groups.

* The bounds as numbers.  `Jitter.Around` says that they lie around the time
  to live, and `Jitter.exists_around` that every percentage below one hundred
  has such bounds: in spite of three roundings the lower one is never below
  zero.
* The numbers that are drawn.  `Jitter.drawn_between`: no word leaves the
  bounds.
* `Jitter.Bounded` is what jitter promises, and `Jitter.Fits` the condition
  that its upper bound is below `2 ^ 64` seconds.
* `Jitter.bounded_iff_fits` is the result for accepted policies, and
  `Jitter.not_bounded_hoard` a policy that is accepted and does not fit.
-/

namespace PolicyWeave

open Number

/-- Whether a number has the 64-bit format, if it is finite. -/
def Number.Binary.IsDouble (x : Double) : Prop :=
  ∀ v, x.value? = some v → Format.double.Holds v

/-- The lesser of two numbers in order is the first. -/
theorem Number.Binary.lesser_eq_left {x y : Double} {v w : ℚ}
    (hx : x.value? = some v) (hy : y.value? = some w) (hle : v ≤ w) :
    x.lesser y = x := by
  have hlt : y.lt x = false := by
    rw [Bool.eq_false_iff, Ne, Binary.lt_iff hy hx]
    exact not_lt.mpr hle
  cases x with
  | nan => cases hx
  | infinity => cases hx
  | finite =>
    cases y with
    | nan => cases hy
    | infinity => cases hy
    | finite => simp [Binary.lesser, hlt]

/-- Between two finite numbers all are finite. -/
theorem Number.Binary.exists_value?_between {x y z : Double} {v w : ℚ}
    (hx : x.value? = some v) (hy : y.value? = some w)
    (hle : x.le z = true) (hle' : z.le y = true) :
    ∃ r, z.value? = some r ∧ v ≤ r ∧ r ≤ w := by
  have hfinite : ∃ r, z.value? = some r := by
    cases x with
    | nan => cases hx
    | infinity => cases hx
    | finite =>
      cases y with
      | nan => cases hy
      | infinity => cases hy
      | finite =>
        cases z with
        | nan => simp [Binary.le, Binary.lt, Binary.numEq] at hle
        | infinity s =>
          -- an infinity is above or below both
          cases s <;> simp_all [Binary.le, Binary.lt, Binary.numEq]
        | finite s m e => exact ⟨_, rfl⟩
  obtain ⟨r, hr⟩ := hfinite
  exact ⟨r, hr, (Binary.le_iff hx hr).mp hle, (Binary.le_iff hr hy).mp hle'⟩

namespace Jitter

variable {ttl : Duration} {percent : Double}

/-! ## The bounds as numbers -/

/-- The bounds in seconds, `l` and `h`, lie around the seconds `b` of the
time to live, and the upper one is at most twice as large. -/
structure Around (ttl : Duration) (percent : Double) (l b h : ℚ) : Prop where
  seconds : ttl.InSeconds b
  low : (boundSeconds ttl percent).1.value? = some l
  high : (boundSeconds ttl percent).2.value? = some h
  low_holds : Format.double.Holds l
  high_holds : Format.double.Holds h
  low_nonneg : 0 ≤ l
  low_le : l ≤ b
  le_high : b ≤ h
  high_le : ∀ k : Nat, k ≤ 100 → b ≤ 2 ^ k → h ≤ 2 ^ (k + 1)

theorem value?_whole : whole.value? = some 100 :=
  Format.value?_ofNat (n := 100) (by decide)

/-- A percentage below one hundred is so far below it that its product with
the seconds is not rounded above one hundred times the seconds. -/
theorem product_le {b v p : ℚ} (hb : 2 ^ (-30 : Int) ≤ b)
    (hb' : b ≤ 2 ^ 65) (hv : Format.double.Holds v)
    (hv0 : 0 ≤ v) (hlt : v < 100)
    (hp : Format.double.Nearest (b * v) p) : p ≤ 100 * b := by
  have hpos : 0 < b := (zpow_pos two_pos _).trans_le hb
  have hgap : v ≤ 100 - 1 / 2 ^ 46 := by
    have hpred := hv.le_pred_of_lt (c := 100 * 2 ^ 46) (u := -46)
      (by norm_num [Format.double]) (by norm_num; exact hlt)
    norm_num at hpred ⊢
    exact hpred
  rcases lt_or_ge (b * v) (2 ^ (-1022 : Int)) with hsmall | hlarge
  · have hleast := Format.holds_two_zpow (k := -1022) (by decide) (by decide)
    calc p ≤ 2 ^ (-1022 : Int) := hp.le_of_le_holds hleast hsmall.le
      _ ≤ 2 ^ (-30 : Int) := zpow_le_zpow_right₀ one_le_two (by decide)
      _ ≤ b := hb
      _ ≤ 100 * b := by linarith
  · have hless : b * v ≤ b * (100 - 1 / 2 ^ 46) := by gcongr
    have hsize : b * v < 2 ^ (1023 : Int) := by
      calc b * v ≤ 2 ^ 65 * 100 := by gcongr
        _ < 2 ^ (72 : Int) := by norm_num
        _ ≤ 2 ^ (1023 : Int) := zpow_le_zpow_right₀ one_le_two (by decide)
    have herror := (abs_lt.mp
      (hp.abs_sub_lt Format.proper_double hlarge hsize)).1
    rw [show Format.double.precision = 53 from rfl] at herror
    norm_num at herror hless ⊢
    linarith

/-- The part of the seconds that is added and taken off: both roundings
leave it between nothing and all of them. -/
theorem exists_spread {b v : ℚ} (hb : ttl.InSeconds b)
    (hz : ttl.isZero = false) (hv : percent.value? = some v)
    (hholds : Format.double.Holds v) (hv0 : 0 ≤ v) (hlt : v < 100) :
    ∃ s, ((ttl.toSeconds.mul (percent.lesser whole)).div whole).value?
        = some s ∧ 0 ≤ s ∧ s ≤ b := by
  have hleast := hb.least hz
  have hgreatest := hb.le
  have hpos : 0 < b := (zpow_pos two_pos _).trans_le hleast
  have hzero := Format.holds_zero Format.proper_double
  have hproduct : b * v ≤ 100 * b := by
    rw [mul_comm]
    gcongr
  obtain ⟨p, hp, hpnear⟩ := Binary.exists_nearest_mul hb.value hv
    (Format.abs_lt_of_le (by positivity) (by linarith))
  have hp0 := hpnear.le_of_holds hzero (by positivity)
  have hple := product_le hleast hgreatest hholds hv0 hlt hpnear
  obtain ⟨s, hs, hsnear⟩ := Binary.exists_nearest_div hp value?_whole
    (by norm_num) (Format.abs_lt_of_le (by positivity) (by linarith))
  rw [Binary.lesser_eq_left hv value?_whole hlt.le]
  exact ⟨s, hs, hsnear.between hzero hb.holds
    ⟨by positivity, by linarith⟩⟩

/-- Every percentage below one hundred gives bounds around a time to live
that is not zero. -/
theorem exists_around {v : ℚ} (hz : ttl.isZero = false)
    (hv : percent.value? = some v) (hholds : Format.double.Holds v)
    (hv0 : 0 ≤ v) (hlt : v < 100) : ∃ l b h, Around ttl percent l b h := by
  obtain ⟨b, hb⟩ := ttl.exists_toSeconds
  obtain ⟨s, hs, hs0, hsle⟩ := exists_spread hb hz hv hholds hv0 hlt
  have hgreatest := hb.le
  obtain ⟨l, hl, hlnear⟩ := Binary.exists_nearest_sub hb.value hs
    (Format.abs_lt_of_le (by linarith) (by linarith))
  obtain ⟨h, hh, hhnear⟩ := Binary.exists_nearest_add hb.value hs
    (Format.abs_lt_of_le (by linarith) (by linarith))
  have hlow := hlnear.between (Format.holds_zero Format.proper_double)
    hb.holds ⟨by linarith, by linarith⟩
  refine ⟨l, b, h, hb, hl, hh, hlnear.holds, hhnear.holds, hlow.1, hlow.2,
    hhnear.le_of_holds hb.holds (by linarith), fun k hk hbk => ?_⟩
  refine hhnear.le_of_le_holds (Format.holds_two_pow (by omega)) ?_
  rw [pow_succ]
  linarith

/-! ## The numbers that are drawn -/

/-- The number of seconds between the bounds that a word selects. -/
def drawn (ttl : Duration) (percent : Double) (word : Nat) : Double :=
  let (lo, hi) := boundSeconds ttl percent
  ((unitPoint word).mul (hi.sub lo)).add lo

theorem sample?_of_not_isFixed (hfixed : isFixed ttl percent = false)
    (word : Nat) :
    sample? ttl percent word
      = Duration.ofSeconds? (drawn ttl percent word) := by
  rw [sample?, hfixed]
  rfl

/-- A word of 64 bits stands for a fraction that is below one by at least
`2 ^ (-52)`. -/
theorem exists_value?_unitPoint {word : Nat} (hword : word < UInt64.size) :
    ∃ u, (unitPoint word).value? = some u ∧ 0 ≤ u
      ∧ u ≤ 1 - 2 / 2 ^ Format.double.precision := by
  have hupper : word / 4096 + 1 ≤ 2 ^ 52 := by
    rw [UInt64.size] at hword
    omega
  have hupper' : ((word / 4096 : Nat) : ℚ) + 1 ≤ 2 ^ 52 := by
    exact_mod_cast hupper
  have hle : ((word / 4096 : Nat) : ℚ) / (2 ^ 52 : Nat)
      ≤ 1 - 2 / 2 ^ Format.double.precision := by
    rw [show Format.double.precision = 53 from rfl, div_le_iff₀ (by norm_num)]
    norm_num at hupper' ⊢
    linarith
  have hholds : Format.double.Holds
      (((word / 4096 : Nat) : ℚ) / (2 ^ 52 : Nat)) := by
    have hunits := Format.holds_of_le (q := word / 4096) (e := -52)
      Format.proper_double
      (by simp only [Format.double]; omega) (by decide) (by decide)
    rwa [zpow_neg, ← div_eq_mul_inv, ← Nat.cast_ofNat (R := ℚ),
      ← Nat.cast_two, show (52 : Int) = (52 : Nat) from rfl, zpow_natCast,
      ← Nat.cast_pow] at hunits
  have hnonneg : 0 ≤ ((word / 4096 : Nat) : ℚ) / (2 ^ 52 : Nat) := by
    positivity
  have hsmall : ((word / 4096 : Nat) : ℚ) / (2 ^ 52 : Nat)
      < 2 ^ (Format.double.maxExponent
          + ((Format.double.precision : Int) - 1)) := by
    refine (hle.trans (sub_le_self 1 (by positivity))).trans_lt ?_
    exact one_lt_zpow₀ one_lt_two (by decide)
  obtain ⟨u, hu, hnear⟩ := Format.exists_nearest_value?_round
    Format.proper_double false (by decide) hsmall
  rw [if_neg (by decide), one_mul] at hnear
  rw [hnear.eq_of_holds hholds] at hu
  exact ⟨_, hu, hnonneg, hle⟩

/-- No word leaves the bounds. -/
theorem drawn_between {l b h : ℚ} (ha : Around ttl percent l b h)
    {word : Nat} (hword : word < UInt64.size) :
    ∃ r, (drawn ttl percent word).value? = some r ∧ l ≤ r ∧ r ≤ h := by
  have hle : l ≤ h := ha.low_le.trans ha.le_high
  have hl0 := ha.low_nonneg
  have hh : h ≤ 2 ^ 66 := ha.high_le 65 (by decide) ha.seconds.le
  obtain ⟨u, hu, hu0, hu1⟩ := exists_value?_unitPoint hword
  have hone : u ≤ 1 := hu1.trans (sub_le_self 1 (by positivity))
  have hwidth : |h - l| < 2 ^ (1023 : Int) :=
    Format.abs_lt_of_le (by linarith) (by linarith)
  obtain ⟨s, hs, hsnear⟩ :=
    Binary.exists_nearest_sub ha.high ha.low hwidth
  have hs' := hsnear.between (Format.holds_zero Format.proper_double)
    ha.high_holds ⟨by linarith, by linarith⟩
  have hpart : 0 ≤ u * s ∧ u * s ≤ s :=
    ⟨mul_nonneg hu0 hs'.1, mul_le_of_le_one_left hs'.1 hone⟩
  obtain ⟨t, ht, htnear⟩ := Binary.exists_nearest_mul hu hs
    (Format.abs_lt_of_le hpart.1 (by linarith))
  have ht' := htnear.between (Format.holds_zero Format.proper_double)
    hsnear.holds hpart
  obtain ⟨z, hz, hznear⟩ := Binary.exists_nearest_add ht ha.low
    (Format.abs_lt_of_le (by linarith) (by linarith))
  refine ⟨z, hz, Format.scaled_between Format.proper_double ha.low_holds
    ha.high_holds hle ?_ ⟨hu0, hu1⟩ hsnear htnear hznear⟩
  exact (le_abs_self _).trans_lt hwidth

/-! ## What jitter promises -/

/-- Whether a duration is between two others. -/
def Within (lo hi d : Duration) : Prop :=
  lo.nanoseconds ≤ d.nanoseconds ∧ d.nanoseconds ≤ hi.nanoseconds

/-- Whether jitter never fails: there are bounds, every word selects a time
between them, and so does every number of seconds that a generator may draw
from their range. -/
def Bounded (ttl : Duration) (percent : Double) : Prop :=
  ∃ lo hi, bounds? ttl percent = some (lo, hi)
    ∧ (∀ word < UInt64.size,
        ∃ d, sample? ttl percent word = some d ∧ Within lo hi d)
    ∧ (isFixed ttl percent = false → ∀ x : Double,
        (boundSeconds ttl percent).1.le x = true →
        x.le (boundSeconds ttl percent).2 = true →
        ∃ d, Duration.ofSeconds? x = some d ∧ Within lo hi d)

/-- The first whole number of seconds that has no duration. -/
def ceiling : Double := Format.double.ofNat UInt64.size

/-- Whether the upper bound has a duration. -/
def Fits (ttl : Duration) (percent : Double) : Prop :=
  isFixed ttl percent = true
    ∨ (boundSeconds ttl percent).2.lt ceiling = true

instance (ttl : Duration) (percent : Double) :
    Decidable (Fits ttl percent) :=
  inferInstanceAs (Decidable (_ ∨ _))

theorem value?_ceiling : ceiling.value? = some (2 ^ 64) := by
  have hcast : ((UInt64.size : Nat) : ℚ) = 2 ^ 64 := by
    norm_num [UInt64.size]
  obtain ⟨w, hw, hnear⟩ := Format.exists_nearest_ofNat
    (n := UInt64.size) (by
      rw [hcast, ← zpow_natCast]
      exact zpow_lt_zpow_right₀ one_lt_two (by decide))
  rw [hcast] at hnear
  rw [ceiling, hw, hnear.eq_of_holds (Format.holds_two_pow (by decide))]

/-- Without jitter the time to live is the only bound. -/
theorem bounded_of_isFixed (hfixed : isFixed ttl percent = true) :
    Bounded ttl percent := by
  refine ⟨ttl, ttl, by simp [bounds?, hfixed], fun word _ => ?_, ?_⟩
  · exact ⟨ttl, by simp [sample?, hfixed], le_rfl, le_rfl⟩
  · rw [hfixed]
    rintro ⟨⟩

theorem bounds?_eq_some_iff (hfixed : isFixed ttl percent = false)
    {lo hi : Duration} :
    bounds? ttl percent = some (lo, hi)
      ↔ Duration.ofSeconds? (boundSeconds ttl percent).1 = some lo
        ∧ Duration.ofSeconds? (boundSeconds ttl percent).2 = some hi := by
  simp [bounds?, hfixed, Option.bind_eq_some_iff]

namespace Around

variable {l b h : ℚ} (ha : Around ttl percent l b h)
  (hfixed : isFixed ttl percent = false)

include ha hfixed

theorem fits_iff : Fits ttl percent ↔ h < 2 ^ 64 := by
  rw [Fits, hfixed, Binary.lt_iff ha.high value?_ceiling]
  simp

theorem bounded (hfits : h < 2 ^ 64) : Bounded ttl percent := by
  have hnonneg : 0 ≤ h := ha.low_nonneg.trans (ha.low_le.trans ha.le_high)
  obtain ⟨lo, hlo⟩ :=
    (Duration.exists_ofSeconds?_iff ha.low ha.low_holds).mpr
      ⟨ha.low_nonneg, (ha.low_le.trans ha.le_high).trans_lt hfits⟩
  obtain ⟨hi, hhi⟩ :=
    (Duration.exists_ofSeconds?_iff ha.high ha.high_holds).mpr
      ⟨hnonneg, hfits⟩
  have hbetween {x : Double} {r : ℚ} (hx : x.value? = some r)
      (hr : l ≤ r ∧ r ≤ h) :
      ∃ d, Duration.ofSeconds? x = some d ∧ Within lo hi d :=
    Duration.exists_ofSeconds?_between ha.low ha.high hx hr.1 hr.2 hlo hhi
  refine ⟨lo, hi, (bounds?_eq_some_iff hfixed).mpr ⟨hlo, hhi⟩,
    fun word hword => ?_, fun _ x hlox hxhi => ?_⟩
  · obtain ⟨r, hr, hrange⟩ := drawn_between ha hword
    rw [sample?_of_not_isFixed hfixed]
    exact hbetween hr hrange
  · obtain ⟨r, hr, hrange⟩ :=
      Binary.exists_value?_between ha.low ha.high hlox hxhi
    exact hbetween hr hrange

theorem bounds?_eq_none (hfits : ¬ h < 2 ^ 64) :
    bounds? ttl percent = none := by
  refine Option.eq_none_iff_forall_not_mem.mpr fun ⟨lo, hi⟩ hbounds => ?_
  obtain ⟨-, hhi⟩ := (bounds?_eq_some_iff hfixed).mp hbounds
  exact hfits ((Duration.exists_ofSeconds?_iff ha.high ha.high_holds).mp
    ⟨hi, hhi⟩).2

end Around

/-! ## Accepted policies -/

/-- The jitter of an accepted policy is a percentage below one hundred. -/
theorem inPercentRange_of_violations_eq_nil {m : Method} {p : CachePolicy}
    (hm : m.violations = []) (hp : m.cache = some p) :
    InPercentRange p.jitterPercent := by
  simp only [Method.violations, hp, Option.map_some, Option.getD_some,
    Method.cacheViolations, List.append_eq_nil_iff] at hm
  obtain ⟨⟨⟨-, ⟨-, hjitter⟩, -⟩, -⟩, -⟩ := hm
  refine (isPercent_iff _).mp ?_
  simpa [percentViolations] using hjitter

/-- Jitter on an accepted policy never fails, and keeps its bounds, exactly
if the upper bound is below `2 ^ 64` seconds; otherwise there are no bounds.
A time to live whose milliseconds a word can count, as every time that a text
says, always fits. -/
theorem bounded_iff_fits {m : Method} {p : CachePolicy}
    (hm : m.violations = []) (hp : m.cache = some p)
    (hdouble : p.jitterPercent.IsDouble) :
    (Bounded p.ttl p.jitterPercent ↔ Fits p.ttl p.jitterPercent)
      ∧ (¬ Fits p.ttl p.jitterPercent →
          bounds? p.ttl p.jitterPercent = none)
      ∧ (p.ttl.milliseconds < UInt64.size → Fits p.ttl p.jitterPercent) := by
  obtain ⟨v, hv, hv0, hlt⟩ := inPercentRange_of_violations_eq_nil hm hp
  by_cases hfixed : isFixed p.ttl p.jitterPercent = true
  · have hfits : Fits p.ttl p.jitterPercent := .inl hfixed
    exact ⟨iff_of_true (bounded_of_isFixed hfixed) hfits,
      fun hno => absurd hfits hno, fun _ => hfits⟩
  · rw [Bool.not_eq_true] at hfixed
    have hz : p.ttl.isZero = false := by
      rw [isFixed, Bool.or_eq_false_iff] at hfixed
      exact hfixed.2
    obtain ⟨l, b, h, ha⟩ := exists_around hz hv (hdouble v hv) hv0 hlt
    have hfits := ha.fits_iff hfixed
    refine ⟨⟨fun hbounded => ?_, fun hfit => ha.bounded hfixed (hfits.mp hfit)⟩,
      fun hno => ha.bounds?_eq_none hfixed (hfits.not.mp hno),
      fun hshort => hfits.mpr ?_⟩
    · by_contra hno
      obtain ⟨lo, hi, hbounds, -⟩ := hbounded
      rw [ha.bounds?_eq_none hfixed (hfits.not.mp hno)] at hbounds
      cases hbounds
    · have hseconds : p.ttl.seconds ≤ 2 ^ 60 := by
        simp only [Duration.milliseconds, UInt64.size] at hshort
        simp only [Duration.seconds]
        omega
      calc h ≤ 2 ^ (61 + 1) :=
            ha.high_le 61 (by decide)
              (ha.seconds.greatest 60 (by decide) hseconds)
        _ < 2 ^ 64 := by norm_num

/-- Whole percentages are doubles. -/
theorem isDouble_percent {n : Nat} (hn : n ≤ 2 ^ 53) :
    (Sample.percent n).IsDouble := by
  intro v hv
  rw [Sample.percent, Format.value?_ofNat hn] at hv
  cases hv
  exact Format.holds_natCast hn

/-- Five minutes, give or take a tenth. -/
theorem bounded_getUser :
    ∃ p, Sample.getUser.cache = some p ∧ Sample.getUser.violations = []
      ∧ p.jitterPercent.IsDouble ∧ Bounded p.ttl p.jitterPercent := by
  have hm : Sample.getUser.violations = [] := by decide +kernel
  have hdouble := isDouble_percent (n := 10) (by decide)
  obtain ⟨hiff, -, hfits⟩ := bounded_iff_fits hm rfl hdouble
  exact ⟨_, rfl, hm, hdouble, hiff.mpr (hfits (by decide +kernel))⟩

end Jitter

/-- A look-up to be kept for three quarters of the longest time, give or take
one half. -/
def Sample.hoard : Method :=
  { Sample.ping with
    name := "hoard"
    cache := some
      ⟨⟨3 * 2 ^ 62 * 1000000000, by decide⟩, "", "hoard", Sample.percent 50,
        .zero⟩ }

/-- The policy is accepted, but there are no bounds, and the greatest word
selects no time. -/
theorem Jitter.not_bounded_hoard :
    ∃ p, Sample.hoard.cache = some p ∧ Sample.hoard.violations = []
      ∧ bounds? p.ttl p.jitterPercent = none
      ∧ sample? p.ttl p.jitterPercent (UInt64.size - 1) = none
      ∧ ¬ Bounded p.ttl p.jitterPercent := by
  refine ⟨_, rfl, by decide +kernel, by decide +kernel, by decide +kernel,
    ?_⟩
  rintro ⟨lo, hi, hbounds, -⟩
  have hnone : bounds? ⟨3 * 2 ^ 62 * 1000000000, by decide⟩
      (Sample.percent 50) = none := by decide +kernel
  rw [hnone] at hbounds
  cases hbounds

end PolicyWeave
