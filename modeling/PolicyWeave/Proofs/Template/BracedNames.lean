import PolicyWeave.Proofs.Contract.Violations
import PolicyWeave.Proofs.Template.Recognition
import PolicyWeave.Sample.Contracts

/-!
# Names between braces

The rule for names of a contract and the scan of a template are two readings
of one rule.  What is a name in one of them is a name in the other.

* `Token.scan_braced` and `Template.parse_braced` read an identifier between
  braces, with all positions.
* `Text.isIdentifier_iff_scan` goes back from the tokens to the identifier.
* `Template.identifiers_agree` puts these together with what validation says
  of parameters and what parsing says of names.
-/

namespace PolicyWeave

open Text (byteLength)

/-- The template that is one bare name. -/
def Template.ofName (s : String) : Template :=
  ⟨[.placeholder
    ⟨.path ⟨s, [], ⟨1, 1 + byteLength s.toList⟩⟩,
      ⟨0, 1 + byteLength s.toList + 1⟩⟩]⟩

/-- An identifier between braces is one name token between two braces. -/
theorem Token.scan_braced {s : String} (h : Text.isIdentifier s = true) :
    scan ("\x7b" ++ s ++ "\x7d")
      = [⟨.openBrace, 0, 1⟩,
          ⟨.identifier s, 1, 1 + byteLength s.toList⟩,
          ⟨.closeBrace, 1 + byteLength s.toList,
            1 + byteLength s.toList + 1⟩,
          ⟨.finish, 1 + byteLength s.toList + 1,
            1 + byteLength s.toList + 1⟩] := by
  have hchars : ("\x7b" ++ s ++ "\x7d").toList
      = '{' :: (s.toList ++ ['}']) := by
    simp
  have hname := scanPlaceholder_name 0 1 Text.blank_nil h
    (nameEnds_cons (by decide) [] : NameEnds ['}'])
  have hclose := scanPlaceholder_close 0 (1 + byteLength s.toList)
    Text.blank_nil []
  simp only [List.nil_append, Text.byteLength_nil, Nat.add_zero]
    at hname hclose
  rw [scan, hchars, scanLiteral_open, hname, hclose, scanLiteral]

/-- A text is an identifier exactly if, between braces, it is one name
token. -/
theorem Text.isIdentifier_iff_scan (s : String) :
    isIdentifier s = true ↔
      (Token.scan ("\x7b" ++ s ++ "\x7d")).map Token.kind
        = [.openBrace, .identifier s, .closeBrace, .finish] := by
  constructor
  · intro h
    rw [Token.scan_braced h]
    rfl
  · intro h
    have hmem : TokenKind.identifier s
        ∈ (Token.scan ("\x7b" ++ s ++ "\x7d")).map Token.kind := by
      simp [h]
    obtain ⟨t, ht, hkind⟩ := List.mem_map.mp hmem
    exact Token.allNamed_scan _ t ht s hkind

/-- An identifier between braces is a bare name. -/
theorem Template.parse_braced {s : String} (h : Text.isIdentifier s = true) :
    parse ("\x7b" ++ s ++ "\x7d") = .ok (ofName s) := by
  rw [parse_eq_ok_iff, Token.scan_braced h]
  refine ⟨rfl, ?_⟩
  simp [Parse.parts?, Parse.placeholder?, Parse.expr?, Parse.pathFrom?,
    Parse.fields?, Parse.closePlaceholder?, ofName]

/-- Validation and the scan agree on identifiers.  A text is an identifier
exactly if the scan makes one name token of it.  So each parameter of a valid
contract is a bare name when it is written between braces, and no template
has a name that is not an identifier. -/
theorem Template.identifiers_agree :
    (∀ s, Text.isIdentifier s = true ↔
        (Token.scan ("\x7b" ++ s ++ "\x7d")).map Token.kind
          = [.openBrace, .identifier s, .closeBrace, .finish])
      ∧ (∀ c : Contract, c.isValid = true →
          ∀ m ∈ c.methods, ∀ q ∈ m.params,
            parse ("\x7b" ++ q.name ++ "\x7d") = .ok (ofName q.name))
      ∧ ∀ source t, parse source = .ok t → t.Named := by
  refine ⟨Text.isIdentifier_iff_scan, ?_, fun _ _ => named_of_parse_eq_ok⟩
  intro c hc m hm q hq
  have hsound : c.Sound := (Contract.isValid_iff_sound c).mp hc
  exact parse_braced ((hsound.methods m hm).params q hq).identifier

/-- A call of `json` on a field, with blanks inside its braces. -/
def Template.jsonOfId : Template :=
  ⟨[.placeholder
    ⟨.call ⟨"json", [⟨"user", ["id"], ⟨7, 14⟩⟩], ⟨2, 15⟩⟩, ⟨0, 17⟩⟩]⟩

/-- A parameter of the user service, and a template with a builtin, a root and
a field. -/
theorem Template.identifiers_agree_userService :
    parse "\x7bid\x7d" = .ok (ofName "id")
      ∧ parse "\x7b json(user.id) \x7d" = .ok jsonOfId ∧ jsonOfId.Named := by
  obtain ⟨-, hparams, hnames⟩ := identifiers_agree
  have hvalid : Sample.userService.isValid = true := by decide +kernel
  have hparse : parse "\x7b json(user.id) \x7d" = .ok jsonOfId := by
    decide +kernel
  exact ⟨hparams _ hvalid Sample.getUser (by simp [Sample.userService])
      (Sample.param "id" "&str" .value none) (by simp [Sample.getUser]),
    hparse, hnames _ _ hparse⟩

/-- Blanks around a name belong to no token, and letters of other scripts
start none. -/
example : (Token.scan "\x7b id\x7d").map Token.kind
      = [.openBrace, .identifier "id", .closeBrace, .finish]
    ∧ Text.isIdentifier " id" = false
    ∧ Text.isIdentifier "é" = false := by
  decide +kernel

end PolicyWeave
