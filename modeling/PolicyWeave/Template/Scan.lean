import PolicyWeave.Template.Token
import PolicyWeave.Text.Blank
import PolicyWeave.Text.Identifier
import PolicyWeave.Text.Utf8

/-!
# From text to tokens

The scan has two modes.  In literal text everything up to the next brace
is one token.  Inside a placeholder blanks are skipped, and names and
punctuation are tokens.  The first structural fault ends the scan.

Both modes are functions of the position and of the characters left, and
each call takes at least one character.
-/

namespace PolicyWeave

namespace Token

/-- A character of literal text. -/
def isLiteral (c : Char) : Bool :=
  c != '{' && c != '}'

/-- The tokens of punctuation inside a placeholder. -/
def punctuation? (c : Char) : Option TokenKind :=
  if c == '(' then some .openParen
  else if c == ')' then some .closeParen
  else if c == ',' then some .comma
  else if c == '.' then some .dot
  else none

/-- The fault of a character that starts no token. -/
def strayCharacter (c : Char) (position : Nat) : TemplateError :=
  .unexpectedToken ("character '" ++ String.singleton c ++ "'")
    "identifier, '(', ')', ',', '.' or '\x7d'" position

private theorem length_dropWhile_le_length {α : Type} (p : α → Bool)
    (l : List α) : (l.dropWhile p).length ≤ l.length :=
  (List.dropWhile_suffix p).length_le

mutual

/-- The tokens from `pos` on, outside placeholders. -/
def scanLiteral (pos : Nat) : List Char → List Token
  | [] => [⟨.finish, pos, pos⟩]
  | c :: cs =>
    if c == '{' then
      ⟨.openBrace, pos, pos + c.utf8Size⟩
        :: scanPlaceholder pos (pos + c.utf8Size) cs
    else if c == '}' then
      [⟨.fault (.unmatchedClose pos), pos, pos + c.utf8Size⟩]
    else
      let run := c :: cs.takeWhile isLiteral
      let stop := pos + Text.byteLength run
      ⟨.text (String.ofList run), pos, stop⟩
        :: scanLiteral stop (cs.dropWhile isLiteral)
termination_by cs => cs.length
decreasing_by
  · simp
  · exact Nat.lt_succ_of_le (length_dropWhile_le_length _ _)

/-- The tokens from `pos` on, inside the placeholder opened at
`opened`. -/
def scanPlaceholder (opened pos : Nat) : List Char → List Token
  | [] => [⟨.fault (.unterminatedPlaceholder opened), pos, pos⟩]
  | c :: cs =>
    let next := pos + c.utf8Size
    if Text.isBlank c then scanPlaceholder opened next cs
    else if c == '{' then [⟨.fault (.nestedPlaceholder pos), pos, next⟩]
    else if c == '}' then ⟨.closeBrace, pos, next⟩ :: scanLiteral next cs
    else
      match punctuation? c with
      | some kind => ⟨kind, pos, next⟩ :: scanPlaceholder opened next cs
      | none =>
        if Text.isIdentStart c then
          let run := c :: cs.takeWhile Text.isIdentRest
          let stop := pos + Text.byteLength run
          ⟨.identifier (String.ofList run), pos, stop⟩
            :: scanPlaceholder opened stop (cs.dropWhile Text.isIdentRest)
        else [⟨.fault (strayCharacter c pos), pos, next⟩]
termination_by cs => cs.length
decreasing_by
  · simp
  · simp
  · simp
  · exact Nat.lt_succ_of_le (length_dropWhile_le_length _ _)

end

/-- The tokens of a template text. -/
def scan (source : String) : List Token :=
  scanLiteral 0 source.toList

end Token

end PolicyWeave
