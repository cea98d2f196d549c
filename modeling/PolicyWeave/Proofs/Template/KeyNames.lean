import PolicyWeave.Proofs.Plan
import PolicyWeave.Proofs.Template.FieldPaths
import PolicyWeave.Proofs.Template.Names

/-!
# Names in key templates

What `Template.Named` says of a parsed template stays true when the
template is compiled: every field path of a key template is made of
identifiers.

A root is a name of the template or, where a builtin takes all value
parameters, the name of a parameter.  So the lemmas ask that the names of
the parameters are identifiers, which a planned contract guarantees.
-/

namespace PolicyWeave

/-- Whether a field path is made of identifiers. -/
structure FieldPath.Named (p : FieldPath) : Prop where
  param : Text.isIdentifier p.param = true
  fields : ∀ f ∈ p.fields, Text.isIdentifier f = true

/-- Whether all field paths of a segment are made of identifiers. -/
def Segment.Named : Segment → Prop
  | .literal _ => True
  | .field p => p.Named
  | .builtin _ _ args => ∀ p ∈ args, p.Named

/-- Whether all field paths of a key template are made of identifiers. -/
def KeyTemplate.Named (k : KeyTemplate) : Prop :=
  ∀ s ∈ k.segments, s.Named

/-- A segment is named so exactly if its field paths are. -/
theorem Segment.named_iff {s : Segment} :
    s.Named ↔ ∀ p ∈ s.paths, p.Named := by
  cases s <;> simp [Segment.Named, Segment.paths]

/-- The operands of a part with such names have such names. -/
theorem Part.named_of_mem_paths {p : Part} (h : p.Named) :
    ∀ q ∈ p.paths, q.Named := by
  match p with
  | .text s => simp [Part.paths]
  | .placeholder ⟨.path q, _⟩ =>
    intro r hr
    obtain rfl : r = q := by simpa [Part.paths] using hr
    exact h
  | .placeholder ⟨.call c, _⟩ => exact h.args

/-- A field path reached from such names is made of identifiers. -/
theorem FieldPath.Reached.named {m : Method} {ps : List Path}
    {q : FieldPath}
    (hparams : ∀ r ∈ m.params, Text.isIdentifier r.name = true)
    (hps : ∀ p ∈ ps, p.Named) (h : q.Reached m ps) : q.Named := by
  cases h with
  | operand hp h =>
    obtain ⟨-, -, -, -, rfl⟩ := Path.resolve_eq_ok_iff.mp h
    exact ⟨(hps _ hp).root, (hps _ hp).fields⟩
  | param hr => exact ⟨hparams _ (List.mem_filter.mp hr).1, by simp⟩

/-- A template whose method has identifiers for parameters compiles to
field paths that are made of identifiers. -/
theorem KeyTemplate.named_of_compile_eq_ok {table : BuiltinTable}
    {c : Contract} {m : Method} {source : String} {k : KeyTemplate}
    (hparams : ∀ q ∈ m.params, Text.isIdentifier q.name = true)
    (h : compile table c m source = .ok k) : k.Named := by
  obtain ⟨t, hparse, hreached⟩ := reached_of_compile_eq_ok h
  have hnamed := Template.named_of_parse_eq_ok hparse
  intro s hs
  refine Segment.named_iff.mpr ?_
  intro q hq
  refine (hreached q (List.mem_flatMap.mpr ⟨s, hs, hq⟩)).named hparams ?_
  intro p hp
  obtain ⟨part, hpart, hp⟩ := List.mem_flatMap.mp hp
  exact Part.named_of_mem_paths (hnamed part hpart) p hp

/-- Every key template of a plan has field paths that are made of
identifiers. -/
theorem ContractPlan.named_of_mem_keyTemplates {table : BuiltinTable}
    {c : Contract} {p : ContractPlan} {k : KeyTemplate}
    (h : c.plan table = .ok p) (hk : k ∈ p.keyTemplates) : k.Named := by
  obtain ⟨m, hm, t, -, hcompile⟩ :=
    Contract.compile_of_mem_keyTemplates h hk
  refine KeyTemplate.named_of_compile_eq_ok ?_ hcompile
  intro q hq
  have hname := Contract.isItemName_of_mem_params h hm hq
  simp only [Text.isItemName, Bool.and_eq_true] at hname
  exact hname.1

end PolicyWeave
