/-!
# Binary floating point, exactly

A `Binary` is a floating-point value held as a sign, a significand and an
exponent, so that every operation on it is integer arithmetic.  The width
is a parameter: `Format.double` and `Format.single` are the two widths in
use.

There are four groups.

* Rounding.  `roundDiv` rounds one quotient to the nearest integer and
  `Format.round` one quotient to the nearest value of a format, both with
  ties to the even neighbour.  Every value is built by `Format.round`.
* Values from outside: `Format.ofNat`, `Format.ofDecimal`.
* Arithmetic and order of doubles.
* Integer parts: `Binary.truncate`, `Binary.nearest`.
-/

namespace PolicyWeave.Number

/-- A floating-point value.  A finite value is
`significand * 2 ^ exponent`, negated when `negative` holds. -/
inductive Binary where
  | nan
  | infinity (negative : Bool)
  | finite (negative : Bool) (significand : Nat) (exponent : Int)
  deriving DecidableEq, Inhabited, Repr

/-- The width of a floating-point format: the bits of a significand, and
the least and the greatest exponent of the unit in the last place. -/
structure Format where
  precision : Nat
  minExponent : Int
  maxExponent : Int

/-- The 64-bit format. -/
def Format.double : Format := ⟨53, -1074, 971⟩

/-- The 32-bit format. -/
def Format.single : Format := ⟨24, -149, 104⟩

/-! ## Rounding -/

/-- A quotient rounded to the nearest integer, a tie to the even one. -/
def roundDiv (num den : Nat) : Nat :=
  let q := num / den
  let r := num % den
  if 2 * r < den then q
  else if den < 2 * r then q + 1
  else q + q % 2

/-- The greatest `k` with `2 ^ k ≤ num / den`, for positive operands. -/
def floorLog2 (num den : Nat) : Int :=
  let k : Int := (num.log2 : Int) - den.log2
  let reached :=
    if 0 ≤ k then den * Nat.pow 2 k.toNat ≤ num
    else den ≤ num * Nat.pow 2 (-k).toNat
  if reached then k else k - 1

namespace Format

/-- The exponent of the unit in the last place at the size of a positive
quotient. -/
def unitExponent (f : Format) (num den : Nat) : Int :=
  max f.minExponent (floorLog2 num den - ((f.precision : Int) - 1))

/-- The value nearest to `num / den`.  A significand that rounds up to
the next power of two moves to the next exponent, and a value past the
last exponent is infinite. -/
def round (f : Format) (negative : Bool) (num den : Nat) : Binary :=
  if num == 0 then .finite negative 0 f.minExponent
  else
    let e := f.unitExponent num den
    let q :=
      if 0 ≤ e then roundDiv num (den * Nat.pow 2 e.toNat)
      else roundDiv (num * Nat.pow 2 (-e).toNat) den
    let carried := q == Nat.pow 2 f.precision
    let q := if carried then q / 2 else q
    let e := if carried then e + 1 else e
    if f.maxExponent < e then .infinity negative
    else .finite negative q e

/-- The value nearest to `m * 2 ^ e`. -/
def roundScaled (f : Format) (negative : Bool) (m : Nat) (e : Int) :
    Binary :=
  if 0 ≤ e then f.round negative (m * Nat.pow 2 e.toNat) 1
  else f.round negative m (Nat.pow 2 (-e).toNat)

/-! ## Values from outside -/

/-- The value nearest to a natural number. -/
def ofNat (f : Format) (n : Nat) : Binary :=
  f.round false n 1

/-- The value nearest to an integer. -/
def ofInt (f : Format) (n : Int) : Binary :=
  f.round (n < 0) n.natAbs 1

end Format

/-- The number of decimal digits of a number; zero has none. -/
def decimalLength (n : Nat) : Nat :=
  if n == 0 then 0 else decimalLength (n / 10) + 1
termination_by n
decreasing_by
  rename_i h
  have : n ≠ 0 := by simpa using h
  omega

/-- The value nearest to `digits * 10 ^ exponent`.  A number of more than
four hundred places before or after its point is past every format, so
its power of ten is never formed. -/
def Format.ofDecimal (f : Format) (negative : Bool) (digits : Nat)
    (exponent : Int) : Binary :=
  let places := (decimalLength digits : Int) + exponent
  if digits == 0 || places < -400 then .finite negative 0 f.minExponent
  else if 400 < places then .infinity negative
  else if 0 ≤ exponent then
    f.round negative (digits * Nat.pow 10 exponent.toNat) 1
  else f.round negative digits (Nat.pow 10 (-exponent).toNat)

/-- A 64-bit value. -/
abbrev Double := Binary

namespace Binary

/-- Zero, as a double. -/
def zero : Double := .finite false 0 Format.double.minExponent

/-! ## Order -/

/-- A finite value as an integer multiple of `2 ^ scale`, for a scale at
or below its exponent. -/
def units (negative : Bool) (m : Nat) (e scale : Int) : Int :=
  let n : Int := m * Nat.pow 2 (e - scale).toNat
  if negative then -n else n

/-- Order of values; a NaN is below nothing. -/
def lt : Binary → Binary → Bool
  | .nan, _ => false
  | _, .nan => false
  | .infinity s, .infinity t => s && !t
  | .infinity s, .finite _ _ _ => s
  | .finite _ _ _, .infinity t => !t
  | .finite s m e, .finite t n d =>
    let scale := min e d
    units s m e scale < units t n d scale

/-- Equality of numbers: the two zeros are equal and a NaN equals
nothing. -/
def numEq : Binary → Binary → Bool
  | .nan, _ => false
  | _, .nan => false
  | .infinity s, .infinity t => s == t
  | .infinity _, .finite _ _ _ => false
  | .finite _ _ _, .infinity _ => false
  | .finite s m e, .finite t n d =>
    let scale := min e d
    units s m e scale == units t n d scale

/-- Order of values, ends included. -/
def le (x y : Binary) : Bool :=
  x.lt y || x.numEq y

/-- The lesser of two values; a NaN gives way to the other. -/
def lesser (x y : Binary) : Binary :=
  match x, y with
  | .nan, _ => y
  | _, .nan => x
  | _, _ => if y.lt x then y else x

/-! ## Arithmetic of doubles -/

/-- The sum of two doubles.  A sum of zero is positive unless both
operands are negative. -/
def add : Double → Double → Double
  | .nan, _ => .nan
  | _, .nan => .nan
  | .infinity s, .infinity t => if s == t then .infinity s else .nan
  | .infinity s, .finite _ _ _ => .infinity s
  | .finite _ _ _, .infinity t => .infinity t
  | .finite s m e, .finite t n d =>
    let scale := min e d
    let sum := units s m e scale + units t n d scale
    let negative := if sum == 0 then s && t else decide (sum < 0)
    Format.double.roundScaled negative sum.natAbs scale

/-- The value with the other sign. -/
def neg : Binary → Binary
  | .nan => .nan
  | .infinity s => .infinity (!s)
  | .finite s m e => .finite (!s) m e

/-- The difference of two doubles. -/
def sub (x y : Double) : Double :=
  x.add y.neg

/-- The product of two doubles. -/
def mul : Double → Double → Double
  | .nan, _ => .nan
  | _, .nan => .nan
  | .infinity s, .infinity t => .infinity (s != t)
  | .infinity s, .finite t n _ =>
    if n == 0 then .nan else .infinity (s != t)
  | .finite s m _, .infinity t =>
    if m == 0 then .nan else .infinity (s != t)
  | .finite s m e, .finite t n d =>
    Format.double.roundScaled (s != t) (m * n) (e + d)

/-- The quotient of two doubles. -/
def div : Double → Double → Double
  | .nan, _ => .nan
  | _, .nan => .nan
  | .infinity _, .infinity _ => .nan
  | .infinity s, .finite t _ _ => .infinity (s != t)
  | .finite s _ _, .infinity t =>
    .finite (s != t) 0 Format.double.minExponent
  | .finite s m e, .finite t n d =>
    if n == 0 then
      if m == 0 then .nan else .infinity (s != t)
    else
      let shift := e - d
      if 0 ≤ shift then
        Format.double.round (s != t) (m * Nat.pow 2 shift.toNat) n
      else Format.double.round (s != t) m (n * Nat.pow 2 (-shift).toNat)

/-! ## Integer parts -/

/-- The value without its fraction, kept between zero and `limit`.  A NaN
counts as zero. -/
def truncate (limit : Nat) : Binary → Nat
  | .nan => 0
  | .infinity s => if s then 0 else limit
  | .finite s m e =>
    if s then 0
    else
      min limit
        (if 0 ≤ e then m * Nat.pow 2 e.toNat
          else m / Nat.pow 2 (-e).toNat)

/-- The integer nearest to a value times `scale`, a tie to the even one.
Negative values below zero, infinities and NaN have none. -/
def nearest? (scale : Nat) : Binary → Option Nat
  | .nan => none
  | .infinity _ => none
  | .finite s m e =>
    if s && m != 0 then none
    else if 0 ≤ e then some (m * scale * Nat.pow 2 e.toNat)
    else some (roundDiv (m * scale) (Nat.pow 2 (-e).toNat))

/-- Whether the value is neither infinite nor a NaN. -/
def isFinite : Binary → Bool
  | .finite _ _ _ => true
  | _ => false

/-- The value of another format as a double.  Every narrower value is
kept exactly. -/
def widen : Binary → Double
  | .nan => .nan
  | .infinity s => .infinity s
  | .finite s m e => Format.double.roundScaled s m e

end Binary

end PolicyWeave.Number
