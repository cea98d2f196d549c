import PolicyWeave.Text.ClassTables

/-!
# Character classes

The classes that names, literals and case mapping ask for.  Each class is
read off a boundary table; a character is a member when an odd number of
boundaries are at or below it.
-/

namespace PolicyWeave.Text

/-- Membership in the class of a boundary table. -/
def inClass (bounds : List Nat) (c : Char) : Bool :=
  (bounds.takeWhile (· ≤ c.toNat)).length % 2 == 1

/-- Letters and digits of any script. -/
def isAlphanumeric (c : Char) : Bool :=
  if c.toNat < 128 then c.isAlphanum else inClass alphanumericBounds c

/-- The letters that only hold the place of a missing one (Hangul
fillers); nothing shows where they stand. -/
def isFiller (c : Char) : Bool :=
  ['\u115F', '\u1160', '\u3164', '\uFFA0'].contains c

/-- Characters that show when written: all but controls, formats, unused
code points, the separators other than the space, and fillers. -/
def isVisible (c : Char) : Bool :=
  if c.toNat < 128 then 32 ≤ c.toNat && c.toNat < 127
  else !(inClass invisibleBounds c || isFiller c)

/-- The halfwidth sound marks, which belong to the character before them
but have a place of their own. -/
def isHalfwidthMark (c : Char) : Bool := c == '\uFF9E' || c == '\uFF9F'

/-- Characters that are drawn onto the one before them. -/
def isCombining (c : Char) : Bool :=
  128 ≤ c.toNat && inClass graphemeExtendBounds c && !isHalfwidthMark c

/-- Characters with a case. -/
def isCased (c : Char) : Bool :=
  if c.toNat < 128 then c.isAlpha else inClass casedBounds c

/-- Characters that stand between cased ones without parting them. -/
def isCaseIgnorable (c : Char) : Bool :=
  inClass caseIgnorableBounds c

end PolicyWeave.Text
