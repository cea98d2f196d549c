import PolicyWeave.Proofs.Template.ExpressionReader
import PolicyWeave.Sample.Contracts

/-!
# Operands of builtins

A builtin is written with one operand: an array of nothing, one reference, or
a tuple of references.  Tuples of more than sixteen elements cannot be
serialized, and nothing keeps operands from being so many.

* `KeyOperand.Serializable` says which operands can be serialized, and
  `Segment.Serializable` asks it of the operand that the text of a segment
  says.
* `Method.calls` are the calls in a template, and `Call.operandCount` is how
  many operands each of them gets, before anything is compiled.
* `KeyTemplate.operands_le_iff`: compiling makes a builtin of each call, with
  so many operands, and no other.
* `ContractPlan.serializable_iff`: the plans whose operands can be
  serialized.
-/

namespace PolicyWeave

/-! ## Texts of operands -/

/-- Whether an operand can be serialized: a tuple has up to sixteen
elements. -/
def KeyOperand.Serializable : KeyOperand → Prop
  | .nothing => True
  | .one _ => True
  | .tuple ps => ps.length ≤ 16

theorem KeyOperand.serializable_ofPaths_iff {ps : List FieldPath} :
    (KeyOperand.ofPaths ps).Serializable ↔ ps.length ≤ 16 := by
  match ps with
  | [] => simp [ofPaths, Serializable]
  | [_] => simp [ofPaths, Serializable]
  | _ :: _ :: _ => rfl

namespace Segment

/-- Whether a text in front of the parenthesis that closes a call says an
operand. -/
def SaysOperand (text : String) (o : KeyOperand) : Prop :=
  KeyExpression.operand? (text.toList ++ [')']) = some (o, [')'])

/-- Whether a builtin is written with an operand that can be serialized. -/
def Serializable : Segment → Prop
  | builtin _ _ args =>
    ∃ o, SaysOperand (operandText args) o ∧ o.Serializable
  | _ => True

variable {args : List FieldPath}

theorem saysOperand_operandText_iff (h : ∀ p ∈ args, p.Named)
    {o : KeyOperand} :
    SaysOperand (operandText args) o ↔ o = .ofPaths args := by
  have hread : KeyExpression.operand? ((operandText args).toList ++ [')'])
      = some (.ofPaths args, [')']) :=
    KeyExpression.operand?_operandText h (.inr rfl)
  rw [SaysOperand, hread]
  simp [eq_comm]

theorem serializable_builtin_iff (h : ∀ p ∈ args, p.Named) (name : String)
    (f : KeyFunction) :
    (builtin name f args).Serializable ↔ args.length ≤ 16 := by
  simp [Serializable, saysOperand_operandText_iff h,
    KeyOperand.serializable_ofPaths_iff]

end Segment

/-! ## Operands of a template -/

/-- The call that a part stands for.  A name that is neither reserved nor a
parameter is a call without operands. -/
def Part.call? (m : Method) : Part → Option Call
  | .text _ => none
  | .placeholder ⟨.call call, _⟩ => some call
  | .placeholder ⟨.path p, _⟩ =>
    if (ReservedName.ofText? p.root).isNone && (m.param? p.root).isNone then
      some ⟨p.root, [], p.span⟩
    else none

/-- The calls in a text that parses as a template of a method. -/
def Method.calls (m : Method) (source : String) : List Call :=
  match Template.parse source with
  | .ok t => t.parts.filterMap (Part.call? m)
  | .error _ => []

/-- How many operands a call gets: those that it writes or, if the builtin is
variadic and it writes none, one for every value parameter. -/
def Call.operandCount (table : BuiltinTable) (m : Method) (c : Call) : Nat :=
  if c.args.isEmpty && (table.get? c.name).any fun b => b.arity.isVariadic
  then m.valueParams.length
  else c.args.length

section

variable {table : BuiltinTable} {c : Contract} {m : Method}

theorem Path.length_of_resolveAll_eq_ok {ps : List Path}
    {qs : List FieldPath} (h : Path.resolveAll m ps = .ok qs) :
    qs.length = ps.length := by
  induction ps generalizing qs with
  | nil =>
    obtain rfl : [] = qs := by simpa [Path.resolveAll] using h
    rfl
  | cons p ps ih =>
    unfold Path.resolveAll at h
    split at h
    · cases h
    · split at h
      · cases h
      · rename_i qs' hqs
        cases h
        rw [List.length_cons, List.length_cons, ih hqs]

/-- A call is resolved to a builtin on its operands. -/
theorem Call.exists_operands_of_resolve_eq_ok {call : Call} {s : Segment}
    (h : call.resolve table m = .ok s) :
    ∃ f args, s = .builtin call.name f args
      ∧ args.length = call.operandCount table m := by
  unfold Call.resolve at h
  split at h
  · cases h
  · rename_i b hb
    split at h
    · cases h
    · split at h
      · rename_i hall
        cases h
        refine ⟨_, _, rfl, ?_⟩
        rw [operandCount, hb, Option.any_some, if_pos hall, List.length_map]
      · rename_i hall
        split at h
        · cases h
        · rename_i qs hqs
          cases h
          refine ⟨_, _, rfl, ?_⟩
          rw [operandCount, hb, Option.any_some, if_neg hall,
            Path.length_of_resolveAll_eq_ok hqs]

/-- A part that stands for a call is resolved as that call is. -/
theorem Part.resolve_of_call?_eq_some {p : Part} {call : Call}
    (hcall : p.call? m = some call) {s : Segment}
    (h : p.resolve table c m = .ok s) : call.resolve table m = .ok s := by
  match p with
  | .text t => cases hcall
  | .placeholder ⟨.call call', _⟩ =>
    cases hcall
    exact h
  | .placeholder ⟨.path p, _⟩ =>
    simp only [call?] at hcall
    split at hcall
    · rename_i hname
      cases hcall
      simp only [Bool.and_eq_true, Option.isNone_iff_eq_none] at hname
      simp only [resolve, Path.resolveBare, hname] at h
      split at h
      · cases ‹(none : Option Param).isSome = true›
      · split at h
        · exact h
        · cases h
    · cases hcall

/-- A part that stands for no call is resolved to no builtin. -/
theorem Part.exists_call?_of_resolve_eq_builtin {p : Part} {name : String}
    {f : KeyFunction} {args : List FieldPath}
    (h : p.resolve table c m = .ok (.builtin name f args)) :
    ∃ call, p.call? m = some call := by
  match p with
  | .text t => cases h
  | .placeholder ⟨.call call, _⟩ => exact ⟨call, rfl⟩
  | .placeholder ⟨.path p, _⟩ =>
    simp only [resolve, Path.resolveBare] at h
    split at h
    · split at h <;> cases h
    · rename_i hreserved
      split at h
      · split at h <;> cases h
      · rename_i hparam
        refine ⟨⟨p.root, [], p.span⟩, ?_⟩
        rw [Option.not_isSome_iff_eq_none] at hparam
        simp [call?, hreserved, hparam]

end

/-! ## Operands of a key template -/

namespace Segment

variable {name : String} {f : KeyFunction} {args : List FieldPath}

theorem builtin_mem_consLiteral_iff {s : String} {ss : List Segment} :
    builtin name f args ∈ consLiteral s ss ↔ builtin name f args ∈ ss := by
  unfold consLiteral
  split
  · simp
  · split <;> simp

/-- Merging keeps the builtins. -/
theorem builtin_mem_merge_iff {ss : List Segment} :
    builtin name f args ∈ merge ss ↔ builtin name f args ∈ ss := by
  induction ss with
  | nil => rfl
  | cons s ss ih =>
    cases s with
    | literal t => simp [merge, builtin_mem_consLiteral_iff, ih]
    | field p => simp [merge, ih]
    | builtin => simp [merge, ih]

end Segment

variable {table : BuiltinTable} {c : Contract} {m : Method}

/-- The builtins of a key template are the calls of its parts. -/
theorem KeyTemplate.operands_le_iff {source : String} {k : KeyTemplate}
    (h : compile table c m source = .ok k) {n : Nat} :
    (∀ name f args, .builtin name f args ∈ k.segments → args.length ≤ n)
      ↔ ∀ call ∈ m.calls source, call.operandCount table m ≤ n := by
  obtain ⟨t, ss, hparse, hparts, rfl⟩ := compile_eq_ok_iff.mp h
  obtain ⟨hresolved, hreached⟩ := Part.mem_of_resolveAll_eq_ok hparts
  simp only [Segment.builtin_mem_merge_iff, Method.calls, hparse,
    List.mem_filterMap]
  constructor
  · rintro hle call ⟨p, hp, hcall⟩
    obtain ⟨s, hs, hresolve⟩ := hresolved p hp
    obtain ⟨f, args, rfl, hcount⟩ := Call.exists_operands_of_resolve_eq_ok
      (Part.resolve_of_call?_eq_some hcall hresolve)
    exact hcount ▸ hle call.name f args hs
  · intro hle name f args hmem
    obtain ⟨p, hp, hresolve⟩ := hreached _ hmem
    obtain ⟨call, hcall⟩ := Part.exists_call?_of_resolve_eq_builtin hresolve
    obtain ⟨f', args', hbuiltin, hcount⟩ :=
      Call.exists_operands_of_resolve_eq_ok
        (Part.resolve_of_call?_eq_some hcall hresolve)
    cases hbuiltin
    exact hcount ▸ hle call ⟨p, hp, hcall⟩

/-- Key templates with named field paths can be serialized exactly if no
builtin has more than sixteen operands. -/
theorem KeyTemplate.forall_serializable_iff {k : KeyTemplate} (h : k.Named) :
    (∀ s ∈ k.segments, s.Serializable)
      ↔ ∀ name f args, .builtin name f args ∈ k.segments →
          args.length ≤ 16 := by
  constructor
  · intro hall name f args hmem
    exact (Segment.serializable_builtin_iff (h _ hmem) name f).mp
      (hall _ hmem)
  · intro hle s hs
    cases s with
    | builtin name f args =>
      exact (Segment.serializable_builtin_iff (h _ hs) name f).mpr
        (hle name f args hs)
    | _ => trivial

/-- The operands of a plan can be serialized exactly if no call in a template
of the contract gets more than sixteen: neither written out, nor as value
parameters of the method.  Each text says the operands, in order, of its
builtin. -/
theorem ContractPlan.serializable_iff {p : ContractPlan}
    (h : c.plan table = .ok p) :
    (∀ k ∈ p.keyTemplates, ∀ name f args,
        .builtin name f args ∈ k.segments →
          Segment.SaysOperand (Segment.operandText args) (.ofPaths args))
      ∧ ((∀ k ∈ p.keyTemplates, ∀ s ∈ k.segments, s.Serializable)
        ↔ ∀ m ∈ c.methods, ∀ source ∈ m.templates,
          ∀ call ∈ m.calls source, call.operandCount table m ≤ 16) := by
  refine ⟨fun k hk name f args hmem => ?_, ?_⟩
  · have hnamed := named_of_mem_keyTemplates h hk _ hmem
    exact (Segment.saysOperand_operandText_iff hnamed).mpr rfl
  constructor
  · intro hall m hm source hsource
    obtain ⟨k, hk, hcompile⟩ :=
      Contract.exists_mem_keyTemplates h hm hsource
    have hnamed := named_of_mem_keyTemplates h hk
    exact (KeyTemplate.operands_le_iff hcompile).mp
      ((KeyTemplate.forall_serializable_iff hnamed).mp (hall k hk))
  · intro hle k hk
    obtain ⟨m, hm, source, hsource, hcompile⟩ :=
      Contract.compile_of_mem_keyTemplates h hk
    have hnamed := named_of_mem_keyTemplates h hk
    exact (KeyTemplate.forall_serializable_iff hnamed).mpr
      ((KeyTemplate.operands_le_iff hcompile).mpr (hle m hm source hsource))

/-- Every builtin of these methods has one operand or none. -/
theorem ContractPlan.serializable_userService :
    ∃ p, Sample.userService.plan .standard = .ok p
      ∧ ∀ k ∈ p.keyTemplates, ∀ s ∈ k.segments, s.Serializable := by
  have herrors : Sample.userService.planErrors .standard = [] := by
    decide +kernel
  have hplan := Contract.plan_of_planErrors_eq_nil herrors
  obtain ⟨-, hserializable⟩ := serializable_iff hplan
  exact ⟨_, hplan, hserializable.mpr (by decide +kernel)⟩

/-- The names of seventeen parameters. -/
def Sample.letters : List String :=
  ["a", "b", "c", "d", "e", "f", "g", "h", "i", "j", "k", "l", "m", "n",
    "o", "p", "q"]

/-- A contract with a method of so many value parameters, cached under the
default key. -/
def Sample.wide : Contract :=
  ⟨"app::users", "Wide",
    [{ listUsers with
        name := "find_all"
        params := letters.map fun name => param name "u32" .value none }]⟩

/-- The contract is accepted, and its key has a builtin on a tuple of
seventeen references. -/
theorem ContractPlan.not_serializable_wide :
    ∃ p k f args, Sample.wide.plan .standard = .ok p ∧ k ∈ p.keyTemplates
      ∧ .builtin "base64_json" f args ∈ k.segments
      ∧ Segment.operandText args
        = "&(&a, &b, &c, &d, &e, &f, &g, &h, &i, &j, &k, &l, &m, &n, &o, "
          ++ "&p, &q)"
      ∧ ¬ (Segment.builtin "base64_json" f args).Serializable := by
  let args : List FieldPath := Sample.letters.map fun name => ⟨name, []⟩
  let k : KeyTemplate :=
    ⟨"users:list:\x7bMETHOD\x7d:\x7bbase64_json()\x7d",
      [.literal "users:list:find_all:",
        .builtin "base64_json" .base64Json args]⟩
  have herrors : Sample.wide.planErrors .standard = [] := by
    decide +kernel
  have hplan := Contract.plan_of_planErrors_eq_nil herrors
  have hnamed : ∀ p ∈ args, p.Named := by
    intro p hp
    obtain ⟨name, hname, rfl⟩ := List.mem_map.mp hp
    refine ⟨?_, by simp⟩
    exact (by decide +kernel : ∀ name ∈ Sample.letters,
      Text.isIdentifier name = true) name hname
  refine ⟨_, k, .base64Json, args, hplan, by decide +kernel, by simp [k],
    by decide +kernel, ?_⟩
  rw [Segment.serializable_builtin_iff hnamed]
  decide

end PolicyWeave
