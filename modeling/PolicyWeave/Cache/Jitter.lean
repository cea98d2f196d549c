import PolicyWeave.Duration

/-!
# Jitter

A stored entry lives for its time to live, give or take a percentage, so
that entries stored together do not expire together.

The bounds are computed in seconds as doubles and brought back to
durations; a bound of `2 ^ 64` seconds or more has no duration.  A sample
draws one 64-bit word and scales its upper 52 bits into the bounds.
-/

namespace PolicyWeave.Jitter

open Number

/-- One hundred percent. -/
def whole : Double := Format.double.ofNat 100

/-- Whether there is nothing to vary: the percentage is zero or below, or
no time is to be lived. -/
def isFixed (ttl : Duration) (percent : Double) : Bool :=
  percent.le Binary.zero || ttl.isZero

/-- The bounds in seconds.  A percentage above one hundred, or a NaN,
counts as one hundred. -/
def boundSeconds (ttl : Duration) (percent : Double) : Double × Double :=
  let base := ttl.toSeconds
  let spread := (base.mul (percent.lesser whole)).div whole
  (base.sub spread, base.add spread)

/-- The least and the greatest time that a jittered entry lives. -/
def bounds? (ttl : Duration) (percent : Double) :
    Option (Duration × Duration) :=
  if isFixed ttl percent then some (ttl, ttl)
  else do
    let (lo, hi) := boundSeconds ttl percent
    let lo ← Duration.ofSeconds? lo
    let hi ← Duration.ofSeconds? hi
    return (lo, hi)

/-- The point of `[0, 1)` that a word stands for: its upper 52 bits as a
binary fraction. -/
def unitPoint (word : Nat) : Double :=
  Format.double.round false (word / 4096) (Nat.pow 2 52)

/-- The time that a word selects between the bounds. -/
def sample? (ttl : Duration) (percent : Double) (word : Nat) :
    Option Duration :=
  if isFixed ttl percent then some ttl
  else
    let (lo, hi) := boundSeconds ttl percent
    Duration.ofSeconds? (((unitPoint word).mul (hi.sub lo)).add lo)

end PolicyWeave.Jitter
