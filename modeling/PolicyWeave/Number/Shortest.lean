import PolicyWeave.Number.Binary

/-!
# Shortest digits

The shortest decimal that reads back as a given floating-point value, and
of those the nearest one.

`interval` is the set of numbers that round to a value: the two halfway
points to its neighbours, which belong to it when the significand is even.
`shortest` tries one digit, two digits and so on.  On each decimal grid
only the two neighbours of the value matter, because a grid that meets
the interval anywhere meets it at one of them.
-/

namespace PolicyWeave.Number

/-- Which way a value halfway between two shortest decimals goes. -/
inductive Tie where
  | up
  | toEven
  deriving DecidableEq, Repr

/-- A decimal `digits * 10 ^ exponent`. -/
structure Decimal where
  digits : Nat
  exponent : Int
  deriving DecidableEq, Repr

/-- The numbers that round to one value, as fractions of `den`.  The
value itself is `mid / den`. -/
structure Interval where
  low : Nat
  mid : Nat
  high : Nat
  den : Nat
  closed : Bool

/-- The interval of a positive value.  Below a power of two the neighbours
are half as far apart, so the lower half is half as wide there. -/
def Format.interval (f : Format) (m : Nat) (e : Int) : Interval :=
  let below := m == Nat.pow 2 (f.precision - 1) && f.minExponent < e
  let low := if below then 4 * m - 1 else 4 * m - 2
  let s := e - 2
  if 0 ≤ s then
    let k := Nat.pow 2 s.toNat
    ⟨low * k, 4 * m * k, (4 * m + 2) * k, 1, m % 2 == 0⟩
  else ⟨low, 4 * m, 4 * m + 2, Nat.pow 2 (-s).toNat, m % 2 == 0⟩

/-- The greatest `k` with `10 ^ k ≤ num / den`, for positive operands. -/
def floorLog10 (num den : Nat) : Int :=
  if den ≤ num then (decimalLength (num / den) : Int) - 1
  else -(decimalLength ((den - 1) / num) : Int)

namespace Interval

/-- Whether `n * 10 ^ k` lies in the interval. -/
def contains (i : Interval) (n : Nat) (k : Int) : Bool :=
  let a := if 0 ≤ k then n * Nat.pow 10 k.toNat * i.den else n * i.den
  let scale := if 0 ≤ k then 1 else Nat.pow 10 (-k).toNat
  if i.closed then i.low * scale ≤ a && a ≤ i.high * scale
  else i.low * scale < a && a < i.high * scale

/-- The neighbour of the middle on the grid of `10 ^ k` that lies in the
interval, the nearer one if both do. -/
def onGrid? (i : Interval) (tie : Tie) (k : Int) : Option Nat :=
  let num := if 0 ≤ k then i.mid else i.mid * Nat.pow 10 (-k).toNat
  let den := if 0 ≤ k then i.den * Nat.pow 10 k.toNat else i.den
  let down := num / den
  let rest := num % den
  let downIn := down != 0 && i.contains down k
  let upIn := i.contains (down + 1) k
  if downIn && upIn then
    if 2 * rest < den then some down
    else if den < 2 * rest then some (down + 1)
    else
      match tie with
      | .up => some (down + 1)
      | .toEven => some (if down % 2 == 0 then down else down + 1)
  else if downIn then some down
  else if upIn then some (down + 1)
  else none

/-- The first grid that meets the interval, from the grid of `10 ^ k`
down. -/
def shortestFrom (i : Interval) (tie : Tie) : Nat → Int → Decimal
  | 0, k => ⟨i.mid / i.den, k⟩
  | fuel + 1, k =>
    match i.onGrid? tie k with
    | some n => ⟨n, k⟩
    | none => i.shortestFrom tie fuel (k - 1)

end Interval

/-- A decimal without zeros at its end. -/
def Decimal.trimZeros : Nat → Decimal → Decimal
  | 0, d => d
  | fuel + 1, d =>
    if d.digits != 0 && d.digits % 10 == 0 then
      trimZeros fuel ⟨d.digits / 10, d.exponent + 1⟩
    else d

/-- The shortest decimal that reads back as the positive value
`m * 2 ^ e`.  Twenty grids are enough for every format in use. -/
def Format.shortest (f : Format) (tie : Tie) (m : Nat) (e : Int) : Decimal :=
  let i := f.interval m e
  (i.shortestFrom tie 20 (floorLog10 i.mid i.den)).trimZeros 2

end PolicyWeave.Number
