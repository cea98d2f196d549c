import PolicyWeave.Proofs.Template.Recognition
import PolicyWeave.Template.Compile

/-!
# The canonical text of templates

`Template.text` and `Template.parse` are inverse to one another up to
spans.

* `Template.WellFormed` is what a template must be for its text to be read
  back.  Every parsed template is of this kind.
* The canonical text is one of the texts that the grammar allows, so
  parsing is answered by the grammar and no scan is looked at here.
* Spans are in the errors of compilation and in nothing else of it.
* `Template.text_parse_inverse` puts these together.
-/

namespace PolicyWeave

/-! ## Well-formed templates -/

/-- Whether every run of text of a template is one part without braces,
and every name is an identifier. -/
structure Template.WellFormed (t : Template) : Prop where
  maximal : t.Maximal
  plain : ∀ s, .text s ∈ t.parts → ∀ c ∈ s.toList, c ≠ '{' ∧ c ≠ '}'
  named : t.Named

/-- A text among parts that are spelled has no braces. -/
theorem Part.ListWritten.plain {ps : List Part} {cs : List Char}
    (h : ListWritten ps cs) {s : String} (hs : .text s ∈ ps) :
    ∀ c ∈ s.toList, c ≠ '{' ∧ c ≠ '}' := by
  induction h with
  | nil => cases hs
  | cons hp hps ih =>
    cases hs with
    | head =>
      cases hp with
      | text hplain => exact hplain
    | tail _ hs => exact ih hs

/-- What parses is well formed. -/
theorem Template.wellFormed_of_parse_eq_ok {source : String}
    {t : Template} (h : parse source = .ok t) : t.WellFormed := by
  obtain ⟨hwritten, hmax⟩ := written_of_parse_eq_ok h
  exact ⟨hmax, fun s hs => hwritten.plain hs, named_of_parse_eq_ok h⟩

/-! ## Canonical texts are in the language -/

theorem Path.fieldsWritten_flatMap {fs : List String}
    (h : ∀ f ∈ fs, Text.isIdentifier f = true) :
    FieldsWritten fs (fs.flatMap fun f => '.' :: f.toList) := by
  induction fs with
  | nil => exact .nil
  | cons f fs ih =>
    obtain ⟨hf, hfs⟩ := List.forall_mem_cons.mp h
    exact .cons Text.blank_nil Text.blank_nil hf (ih hfs)

theorem Path.Named.written {p : Path} (h : p.Named) :
    p.Written p.chars :=
  .mk h.root (fieldsWritten_flatMap h.fields) p.span

theorem Path.listWritten_listChars {ps : List Path}
    (h : ∀ p ∈ ps, p.Named) : ListWritten ps (listChars ps) := by
  fun_induction listChars ps with
  | case1 => exact .nil
  | case2 p => exact .one (h p (by simp)).written
  | case3 p q rest ih =>
    obtain ⟨hp, hrest⟩ := List.forall_mem_cons.mp h
    have hspace : Text.Blank [' '] := .cons (by decide) Text.blank_nil
    rw [List.append_assoc]
    exact .cons hp.written Text.blank_nil hspace (ih hrest)

theorem Expr.Named.written {e : Expr} (h : e.Named) :
    e.Written e.chars := by
  cases e with
  | path p => exact .path (Path.Named.written h)
  | call c =>
    obtain ⟨hname, hargs⟩ : c.Named := h
    rw [chars, List.append_assoc, List.cons_append]
    exact .call hname Text.blank_nil (Path.listWritten_listChars hargs)
      Text.blank_nil c.span

theorem Part.listWritten_flatMap {ps : List Part}
    (hplain : ∀ s, .text s ∈ ps → ∀ c ∈ s.toList, c ≠ '{' ∧ c ≠ '}')
    (hnamed : ∀ p ∈ ps, p.Named) :
    ListWritten ps (ps.flatMap chars) := by
  induction ps with
  | nil => exact .nil
  | cons p ps ih =>
    obtain ⟨hp, hps⟩ := List.forall_mem_cons.mp hnamed
    refine .cons ?_ (ih (fun s hs => hplain s (by simp [hs])) hps)
    cases p with
    | text s => exact .text (hplain s (by simp))
    | placeholder q =>
      exact .placeholder Text.blank_nil (Expr.Named.written hp)
        Text.blank_nil q.span

namespace Template

/-- The canonical text of a well-formed template spells it. -/
theorem WellFormed.written {t : Template} (h : t.WellFormed) :
    t.Written t.text.toList := by
  rw [text, String.toList_ofList]
  exact Part.listWritten_flatMap h.plain h.named

/-- The canonical text of a well-formed template is read back. -/
theorem WellFormed.exists_parse_text {t : Template} (h : t.WellFormed) :
    ∃ u, parse t.text = .ok u ∧ u.erase = t.erase :=
  h.maximal.exists_parse_eq_ok h.written

end Template

/-! ## Compilation without spans -/

/-- Outcomes with the same value, if any, succeed or fail together. -/
theorem cases_of_toOption_eq {ε α : Type} {x y : Except ε α}
    (h : x.toOption = y.toOption) :
    (∃ a, x = .ok a ∧ y = .ok a)
      ∨ ∃ e e', x = .error e ∧ y = .error e' := by
  cases x with
  | error e =>
    cases y with
    | error e' => exact .inr ⟨e, e', rfl, rfl⟩
    | ok b => cases h
  | ok a =>
    cases y with
    | error e' => cases h
    | ok b =>
      obtain rfl : a = b := Option.some.inj h
      exact .inl ⟨a, rfl, rfl⟩

section

variable (table : BuiltinTable) (c : Contract) (m : Method)

theorem Path.toOption_resolve_erase (p : Path) :
    (p.erase.resolve m).toOption = (p.resolve m).toOption := by
  simp only [Path.resolve, Path.erase]
  cases m.param? p.root with
  | none => rfl
  | some q =>
    by_cases hq : q.kind = .context
    · simp [hq, Except.toOption]
    · simp only [hq, if_false]
      split
      · split
        · rfl
        · rfl
      · rfl

theorem Path.toOption_resolveAll_cons (p : Path) (ps : List Path) :
    (Path.resolveAll m (p :: ps)).toOption
      = (p.resolve m).toOption.bind fun q =>
        (Path.resolveAll m ps).toOption.map fun qs => q :: qs := by
  rw [Path.resolveAll]
  cases p.resolve m with
  | error e => rfl
  | ok q =>
    cases Path.resolveAll m ps with
    | error e => rfl
    | ok qs => rfl

theorem Path.toOption_resolveAll_erase (ps : List Path) :
    (Path.resolveAll m (ps.map Path.erase)).toOption
      = (Path.resolveAll m ps).toOption := by
  induction ps with
  | nil => rfl
  | cons p ps ih =>
    rw [List.map_cons, toOption_resolveAll_cons, toOption_resolveAll_cons,
      toOption_resolve_erase, ih]

theorem Call.toOption_resolve_erase (call : Call) :
    (call.erase.resolve table m).toOption
      = (call.resolve table m).toOption := by
  have hargs :=
    cases_of_toOption_eq (Path.toOption_resolveAll_erase m call.args)
  simp only [Call.resolve, Call.erase, List.length_map, List.isEmpty_map]
  cases table.get? call.name with
  | none => rfl
  | some b =>
    dsimp only
    split
    · rfl
    · split
      · rfl
      · rcases hargs with ⟨qs, herase, hargs⟩ | ⟨e, e', herase, hargs⟩
        · rw [herase, hargs]
        · rw [herase, hargs]
          rfl

theorem Path.toOption_resolveBare_erase (p : Path) :
    (p.erase.resolveBare table c m).toOption
      = (p.resolveBare table c m).toOption := by
  have hp := cases_of_toOption_eq (Path.toOption_resolve_erase m p)
  have hcall := Call.toOption_resolve_erase table m ⟨p.root, [], p.span⟩
  have hroot : p.erase.root = p.root := rfl
  have hfields : p.erase.fields = p.fields := rfl
  simp only [Path.resolveBare, hroot, hfields]
  cases ReservedName.ofText? p.root with
  | some r => cases p.fields.head? <;> rfl
  | none =>
    dsimp only
    split
    · rcases hp with ⟨q, herase, hp⟩ | ⟨e, e', herase, hp⟩
      · rw [herase, hp]
      · rw [herase, hp]
        rfl
    · split
      · exact hcall
      · rfl

theorem Part.toOption_resolve_erase (p : Part) :
    (p.erase.resolve table c m).toOption
      = (p.resolve table c m).toOption := by
  match p with
  | .text s => rfl
  | .placeholder ⟨.path p, span⟩ =>
    exact Path.toOption_resolveBare_erase table c m p
  | .placeholder ⟨.call call, span⟩ =>
    exact Call.toOption_resolve_erase table m call

theorem Part.toOption_resolveAll_cons (p : Part) (ps : List Part) :
    (Part.resolveAll table c m (p :: ps)).toOption
      = (p.resolve table c m).toOption.bind fun s =>
        (Part.resolveAll table c m ps).toOption.map fun ss => s :: ss := by
  rw [Part.resolveAll]
  cases p.resolve table c m with
  | error e => rfl
  | ok s =>
    cases Part.resolveAll table c m ps with
    | error e => rfl
    | ok ss => rfl

theorem Part.toOption_resolveAll_erase (ps : List Part) :
    (Part.resolveAll table c m (ps.map Part.erase)).toOption
      = (Part.resolveAll table c m ps).toOption := by
  induction ps with
  | nil => rfl
  | cons p ps ih =>
    rw [List.map_cons, toOption_resolveAll_cons, toOption_resolveAll_cons,
      toOption_resolve_erase, ih]

end

namespace Template

/-- Texts of one template but for spans compile to the same segments, or
neither compiles. -/
theorem segments_compile_eq_of_erase_eq {source source' : String}
    {t t' : Template} (h : parse source = .ok t)
    (h' : parse source' = .ok t') (herase : t.erase = t'.erase)
    (table : BuiltinTable) (c : Contract) (m : Method) :
    (KeyTemplate.compile table c m source).toOption.map
        KeyTemplate.segments
      = (KeyTemplate.compile table c m source').toOption.map
        KeyTemplate.segments := by
  have hsegments (source : String) (t : Template)
      (h : parse source = .ok t) :
      (KeyTemplate.compile table c m source).toOption.map
          KeyTemplate.segments
        = (Part.resolveAll table c m (t.parts.map Part.erase)).toOption.map
          Segment.merge := by
    rw [Part.toOption_resolveAll_erase, KeyTemplate.compile, h]
    dsimp only
    rw [KeyTemplate.ofTemplate]
    cases Part.resolveAll table c m t.parts with
    | error e => rfl
    | ok ss => rfl
  have hparts : t.parts.map Part.erase = t'.parts.map Part.erase :=
    congrArg parts herase
  rw [hsegments source t h, hsegments source' t' h', hparts]

/-- Printing and parsing are inverse up to spans.  What parses is well
formed, what is well formed is read back from its text, and the text of a
parsed template compiles exactly when the source does, to the same
segments and dependencies. -/
theorem text_parse_inverse :
    (∀ source t, parse source = .ok t → t.WellFormed)
      ∧ (∀ t : Template, t.WellFormed →
          ∃ u, parse t.text = .ok u ∧ u.erase = t.erase)
      ∧ ∀ source t, parse source = .ok t →
        ∀ (table : BuiltinTable) (c : Contract) (m : Method),
          ((∃ k, KeyTemplate.compile table c m t.text = .ok k)
              ↔ ∃ k, KeyTemplate.compile table c m source = .ok k)
            ∧ ∀ k k', KeyTemplate.compile table c m t.text = .ok k →
              KeyTemplate.compile table c m source = .ok k' →
              k.segments = k'.segments
                ∧ k.dependencies = k'.dependencies := by
  refine ⟨fun source t => wellFormed_of_parse_eq_ok,
    fun t ht => ht.exists_parse_text, ?_⟩
  intro source t ht table c m
  obtain ⟨u, hu, herase⟩ := (wellFormed_of_parse_eq_ok ht).exists_parse_text
  have hsegments :=
    segments_compile_eq_of_erase_eq hu ht herase table c m
  constructor
  · cases hk : KeyTemplate.compile table c m t.text <;>
      cases hk' : KeyTemplate.compile table c m source <;>
      simp_all [Except.toOption]
  · intro k k' hk hk'
    have heq : k.segments = k'.segments := by
      simpa [hk, hk', Except.toOption] using hsegments
    exact ⟨heq, by simp only [KeyTemplate.dependencies, heq]⟩

end Template

end PolicyWeave
