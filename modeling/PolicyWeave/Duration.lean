import PolicyWeave.Number.Layout
import PolicyWeave.Number.Reading
import PolicyWeave.Text.Blank

/-!
# Durations

A duration is a count of nanoseconds below `2 ^ 64` seconds.

There are four groups.

* Construction and parts.
* `TimeUnit` and its five values: the units of duration texts.
* `parse?` and `format`.  A text is a decimal number and a unit; the
  format uses the largest unit that divides the whole milliseconds.
* Seconds as doubles, in both directions.
-/

namespace PolicyWeave

open Number

/-- The first number of nanoseconds that is not a duration. -/
def Duration.limit : Nat := UInt64.size * 1000000000

/-- A span of time. -/
structure Duration where
  nanoseconds : Nat
  inRange : nanoseconds < Duration.limit
  deriving DecidableEq

namespace Duration

/-! ## Construction and parts -/

/-- The duration of a number of nanoseconds, if it is in range. -/
def ofNanoseconds? (n : Nat) : Option Duration :=
  if h : n < limit then some ⟨n, h⟩ else none

/-- No time at all. -/
def zero : Duration := ⟨0, by decide⟩

instance : Inhabited Duration := ⟨zero⟩

/-- A number of milliseconds; numbers past 64 bits count as the
greatest. -/
def ofMilliseconds (ms : Nat) : Duration :=
  ⟨min ms (UInt64.size - 1) * 1000000, by
    have h : min ms (UInt64.size - 1) ≤ UInt64.size - 1 :=
      Nat.min_le_right _ _
    unfold limit UInt64.size at *
    omega⟩

/-- Seconds and nanoseconds as one duration, if it is in range. -/
def ofParts? (seconds nanos : Nat) : Option Duration :=
  ofNanoseconds? (seconds * 1000000000 + nanos)

/-- The whole seconds. -/
def seconds (d : Duration) : Nat :=
  d.nanoseconds / 1000000000

/-- The nanoseconds after the whole seconds. -/
def subsecond (d : Duration) : Nat :=
  d.nanoseconds % 1000000000

/-- The whole milliseconds. -/
def milliseconds (d : Duration) : Nat :=
  d.nanoseconds / 1000000

/-- Whether no time passes. -/
def isZero (d : Duration) : Bool :=
  d.nanoseconds == 0

/-- Seconds with nine decimals. -/
def decimalText (d : Duration) : String :=
  let nanos := digitChars d.subsecond
  natText d.seconds ++ "."
    ++ String.ofList (List.replicate (9 - nanos.length) '0' ++ nanos)

/-! ## Units -/

/-- A unit of duration texts. -/
inductive TimeUnit where
  | millisecond
  | second
  | minute
  | hour
  | day
  deriving DecidableEq, Repr

namespace TimeUnit

/-- The symbol of a unit. -/
def symbol : TimeUnit → String
  | .millisecond => "ms"
  | .second => "s"
  | .minute => "m"
  | .hour => "h"
  | .day => "d"

/-- The size of a unit in milliseconds. -/
def size : TimeUnit → Nat
  | .millisecond => 1
  | .second => 1000
  | .minute => 60 * 1000
  | .hour => 60 * 60 * 1000
  | .day => 24 * 60 * 60 * 1000

/-- The units, largest first. -/
def descending : List TimeUnit :=
  [.day, .hour, .minute, .second, .millisecond]

/-- The unit of a symbol. -/
def ofSymbol? (s : List Char) : Option TimeUnit :=
  descending.find? fun u => u.symbol.toList == s

end TimeUnit

/-! ## Texts -/

/-- A character of the number in a duration text. -/
def isNumberChar (c : Char) : Bool :=
  c.isDigit || c == '.'

/-- The double of a number made of digits and points: at least one digit
and at most one point. -/
def number? (cs : List Char) : Option Double :=
  if cs.any Char.isDigit && cs.countP (· == '.') ≤ 1 then
    let n := (scanNumeral cs).1
    some (n.toDouble false)
  else none

/-- A number of units, as a double product cut to whole milliseconds. -/
def ofUnits (x : Double) (u : TimeUnit) : Duration :=
  ofMilliseconds
    ((x.mul (Format.double.ofNat u.size)).truncate (UInt64.size - 1))

/-- The duration of a text without blanks at its ends. -/
def parseTrimmed? (cs : List Char) : Option Duration := do
  let x ← number? (cs.takeWhile isNumberChar)
  let u ← TimeUnit.ofSymbol? (Text.trim (cs.dropWhile isNumberChar))
  return ofUnits x u

/-- The duration of a text such as `30s`, `1.5h` or `250 ms`. -/
def parse? (s : String) : Option Duration :=
  parseTrimmed? (Text.trim s.toList)

/-- The largest unit that divides a number of milliseconds; nothing but
milliseconds is used for zero. -/
def largestUnit (ms : Nat) : TimeUnit :=
  if ms == 0 then .millisecond
  else (TimeUnit.descending.find? fun u => ms % u.size == 0).getD .millisecond

/-- The text of a duration, without the part below a millisecond. -/
def format (d : Duration) : String :=
  let u := largestUnit d.milliseconds
  natText (d.milliseconds / u.size) ++ u.symbol

/-! ## Seconds as doubles -/

/-- The seconds of a duration as a double: whole seconds and fraction are
rounded each, then added. -/
def toSeconds (d : Duration) : Double :=
  (Format.double.ofNat d.seconds).add
    ((Format.double.ofNat d.subsecond).div (Format.double.ofNat 1000000000))

/-- The duration nearest to a number of seconds.  There is none for a
negative number, a NaN, or `2 ^ 64` seconds and more. -/
def ofSeconds? (x : Double) : Option Duration := do
  let n ← x.nearest? 1000000000
  ofNanoseconds? n

end Duration

end PolicyWeave
