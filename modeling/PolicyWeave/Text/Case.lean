import PolicyWeave.Text.Classes
import PolicyWeave.Text.CaseTables

/-!
# Case mapping

`lowerCase` and `upperCase` map a whole text.  A character may become
several (`ß` becomes `SS`), and one rule looks at the neighbours: a
capital sigma that ends a word becomes the final sigma.
-/

namespace PolicyWeave.Text

/-- The image of a code point under the first run that holds it. -/
def runImage? (runs : List CaseRun) (n : Nat) : Option Nat :=
  (runs.find? fun r =>
      r.first ≤ n && n ≤ r.last && (n - r.first) % r.step == 0).map
    fun r => r.image + (n - r.first)

/-- One character under a case mapping: a special mapping if there is
one, then a run, else the character itself. -/
def mapCase (specials : List (Nat × List Nat)) (runs : List CaseRun)
    (c : Char) : List Char :=
  match specials.lookup c.toNat with
  | some image => image.map Char.ofNat
  | none => [((runImage? runs c.toNat).map Char.ofNat).getD c]

/-- The lower-case form of one character, away from any neighbours. -/
def lowerChar (c : Char) : List Char :=
  if c.toNat < 128 then [c.toLower] else mapCase lowerSpecials lowerRuns c

/-- The upper-case form of one character. -/
def upperChar (c : Char) : List Char :=
  if c.toNat < 128 then [c.toUpper] else mapCase upperSpecials upperRuns c

/-- Whether the first character that is not case-ignorable is cased. -/
def meetsCased (cs : List Char) : Bool :=
  match cs.dropWhile isCaseIgnorable with
  | [] => false
  | c :: _ => isCased c

/-- Lower case, with the characters already passed at hand, nearest
first. -/
def lowerCaseAfter (before : List Char) : List Char → List Char
  | [] => []
  | c :: cs =>
    let image :=
      if c == 'Σ' then
        if meetsCased before && !meetsCased cs then ['ς'] else ['σ']
      else lowerChar c
    image ++ lowerCaseAfter (c :: before) cs

/-- The lower-case form of a text. -/
def lowerCase (s : String) : String :=
  String.ofList (lowerCaseAfter [] s.toList)

/-- The upper-case form of a text. -/
def upperCase (s : String) : String :=
  String.ofList (s.toList.flatMap upperChar)

end PolicyWeave.Text
