import Mathlib.Data.List.Chain
import PolicyWeave.Proofs.Template.Names
import PolicyWeave.Template.Basic
import PolicyWeave.Text.Blank
import PolicyWeave.Text.Identifier

/-!
# The grammar of templates

Which texts are templates, and of which template, given by rules that
speak of characters alone.  With blanks wherever `_` stands,

```text
path        = name ( _ "." _ name )*
operands    = [ path ( _ "," _ path )* ]
expression  = path | name "(" _ operands _ ")"
placeholder = "{" _ expression _ "}"
template    = ( text without braces | placeholder )*
```

so there is no blank between the name of a call and its parenthesis.

* `Written` holds of a piece of a template and the characters that spell
  it.  It does not look at spans.
* `Maximal` says that every run of text is one part.
  `Part.exists_maximal`: a text that spells some template spells one of
  this kind.
* `erase` removes the spans.
-/

namespace PolicyWeave

/-! ## Rules -/

/-- A run of blanks, which may be empty. -/
def Text.Blank (cs : List Char) : Prop :=
  ∀ c ∈ cs, Text.isBlank c = true

/-- The fields of a path, each behind its point. -/
inductive Path.FieldsWritten : List String → List Char → Prop where
  | nil : FieldsWritten [] []
  | cons {before after cs : List Char} {f : String} {fs : List String}
      (hbefore : Text.Blank before) (hafter : Text.Blank after)
      (hf : Text.isIdentifier f = true) (hfs : FieldsWritten fs cs) :
      FieldsWritten (f :: fs)
        (before ++ '.' :: (after ++ (f.toList ++ cs)))

/-- A path: its root and its fields. -/
inductive Path.Written : Path → List Char → Prop where
  | mk {root : String} {fields : List String} {cs : List Char}
      (hroot : Text.isIdentifier root = true)
      (hfields : FieldsWritten fields cs) (span : Span) :
      Written ⟨root, fields, span⟩ (root.toList ++ cs)

/-- Operands, parted by commas. -/
inductive Path.ListWritten : List Path → List Char → Prop where
  | nil : ListWritten [] []
  | one {p : Path} {cs : List Char} (hp : p.Written cs) :
      ListWritten [p] cs
  | cons {p q : Path} {ps : List Path} {cs before after rest : List Char}
      (hp : p.Written cs) (hbefore : Text.Blank before)
      (hafter : Text.Blank after) (hps : ListWritten (q :: ps) rest) :
      ListWritten (p :: q :: ps) (cs ++ (before ++ ',' :: (after ++ rest)))

/-- A path, or a call with its parenthesis right behind its name. -/
inductive Expr.Written : Expr → List Char → Prop where
  | path {p : Path} {cs : List Char} (hp : p.Written cs) :
      Written (.path p) cs
  | call {name : String} {args : List Path}
      {before cs after : List Char}
      (hname : Text.isIdentifier name = true)
      (hbefore : Text.Blank before) (hargs : Path.ListWritten args cs)
      (hafter : Text.Blank after) (span : Span) :
      Written (.call ⟨name, args, span⟩)
        (name.toList ++ '(' :: (before ++ (cs ++ (after ++ [')']))))

/-- A text without braces, or an expression between braces. -/
inductive Part.Written : Part → List Char → Prop where
  | text {s : String} (hs : ∀ c ∈ s.toList, c ≠ '{' ∧ c ≠ '}') :
      Written (.text s) s.toList
  | placeholder {e : Expr} {before cs after : List Char}
      (hbefore : Text.Blank before) (he : e.Written cs)
      (hafter : Text.Blank after) (span : Span) :
      Written (.placeholder ⟨e, span⟩)
        ('{' :: (before ++ (cs ++ (after ++ ['}']))))

/-- Parts one after the other. -/
inductive Part.ListWritten : List Part → List Char → Prop where
  | nil : ListWritten [] []
  | cons {p : Part} {ps : List Part} {cs rest : List Char}
      (hp : p.Written cs) (hps : ListWritten ps rest) :
      ListWritten (p :: ps) (cs ++ rest)

/-- A template: its parts. -/
def Template.Written (t : Template) (cs : List Char) : Prop :=
  Part.ListWritten t.parts cs

/-! ## Runs of text -/

/-- Whether a part is text. -/
def Part.IsText : Part → Prop
  | .text _ => True
  | .placeholder _ => False

/-- Whether every run of text is one part: no text is empty, and no two
texts stand side by side. -/
structure Part.ListMaximal (ps : List Part) : Prop where
  nonempty : ∀ s, .text s ∈ ps → s ≠ ""
  apart : ps.IsChain fun p q => ¬ (p.IsText ∧ q.IsText)

/-- Whether every run of text of a template is one part. -/
def Template.Maximal (t : Template) : Prop :=
  Part.ListMaximal t.parts

namespace Part

theorem listMaximal_nil : ListMaximal [] :=
  ⟨by simp, .nil⟩

/-- A placeholder may stand in front of any parts. -/
theorem ListMaximal.placeholder {ps : List Part} (h : ListMaximal ps)
    (q : Placeholder) : ListMaximal (.placeholder q :: ps) := by
  refine ⟨fun s hs => h.nonempty s (by simpa using hs), ?_⟩
  rw [List.isChain_cons]
  exact ⟨fun p _ hboth => hboth.1, h.apart⟩

/-- A text may stand in front of parts that do not start with one. -/
theorem ListMaximal.text {ps : List Part} (h : ListMaximal ps)
    {s : String} (hs : s ≠ "") (hhead : ∀ p ∈ ps.head?, ¬ p.IsText) :
    ListMaximal (.text s :: ps) := by
  refine ⟨?_, ?_⟩
  · intro s' hs'
    rcases List.mem_cons.mp hs' with heq | hs'
    · rw [Part.text.inj heq]
      exact hs
    · exact h.nonempty s' hs'
  · rw [List.isChain_cons]
    exact ⟨fun p hp hboth => hhead p hp hboth.2, h.apart⟩

theorem ListMaximal.tail {p : Part} {ps : List Part}
    (h : ListMaximal (p :: ps)) : ListMaximal ps :=
  ⟨fun s hs => h.nonempty s (List.mem_cons_of_mem _ hs), h.apart.of_cons⟩

theorem ListMaximal.not_isText_head {s : String} {ps : List Part}
    (h : ListMaximal (.text s :: ps)) : ∀ p ∈ ps.head?, ¬ p.IsText := by
  intro p hp hp'
  exact (List.isChain_cons.mp h.apart).1 p hp ⟨trivial, hp'⟩

/-- What spells some parts spells parts in which every run of text is
one. -/
theorem exists_maximal {ps : List Part} {cs : List Char}
    (h : ListWritten ps cs) : ∃ qs, ListWritten qs cs ∧ ListMaximal qs := by
  induction h with
  | nil => exact ⟨[], .nil, listMaximal_nil⟩
  | @cons p ps cs rest hp _ ih =>
    obtain ⟨qs, hqs, hmax⟩ := ih
    cases hp with
    | placeholder hbefore he hafter span =>
      exact ⟨_, .cons (.placeholder hbefore he hafter span) hqs,
        hmax.placeholder _⟩
    | @text s hs =>
      by_cases hempty : s = ""
      · subst hempty
        exact ⟨qs, by simpa using hqs, hmax⟩
      · cases hqs with
        | nil =>
          exact ⟨[.text s], .cons (.text hs) .nil,
            hmax.text hempty (by simp)⟩
        | @cons q qs qcs rest hq hqs =>
          cases hq with
          | placeholder hbefore he hafter span =>
            exact ⟨_, .cons (.text hs)
                (.cons (.placeholder hbefore he hafter span) hqs),
              hmax.text hempty (by simp [IsText])⟩
          | @text s' hs' =>
            -- two texts side by side become one
            refine ⟨.text (s ++ s') :: qs, ?_, ?_⟩
            · rw [← List.append_assoc, ← String.toList_append]
              refine .cons (.text ?_) hqs
              intro c hc
              rw [String.toList_append, List.mem_append] at hc
              exact hc.elim (hs c) (hs' c)
            · refine hmax.tail.text ?_ hmax.not_isText_head
              simp [hempty]

end Part

/-! ## Spans -/

/-- A path without its span. -/
def Path.erase (p : Path) : Path :=
  { p with span := ⟨0, 0⟩ }

/-- A call without its spans. -/
def Call.erase (c : Call) : Call :=
  ⟨c.name, c.args.map Path.erase, ⟨0, 0⟩⟩

/-- An expression without its spans. -/
def Expr.erase : Expr → Expr
  | .path p => .path p.erase
  | .call c => .call c.erase

/-- A part without its spans. -/
def Part.erase : Part → Part
  | .text s => .text s
  | .placeholder p => .placeholder ⟨p.expr.erase, ⟨0, 0⟩⟩

/-- A template without its spans. -/
def Template.erase (t : Template) : Template :=
  ⟨t.parts.map Part.erase⟩

end PolicyWeave
