import PolicyWeave.Template.Compile

/-!
# Where field paths come from

A key template reads the arguments through its field paths.  Each of them
is what an operand of the template was resolved to or, where a builtin
takes everything, a value parameter.

There are three groups.

* `Segment.paths` and `KeyTemplate.paths` are the field paths of a key,
  `Part.paths` the operands of a part of a template.
* `Path.resolve_eq_ok_iff` says what an operand is resolved to, and
  `Part.mem_of_resolveAll_eq_ok` that parts are resolved one by one.
* `FieldPath.Reached` says where a field path comes from, and one lemma a
  function of the compiler shows it of what the function gives, up to
  `KeyTemplate.reached_of_compile_eq_ok`.
-/

namespace PolicyWeave

/-! ## Field paths and operands -/

/-- The field paths of a segment. -/
def Segment.paths : Segment → List FieldPath
  | .literal _ => []
  | .field p => [p]
  | .builtin _ _ args => args

/-- The field paths of a key template. -/
def KeyTemplate.paths (k : KeyTemplate) : List FieldPath :=
  k.segments.flatMap Segment.paths

/-- The operands that a part of a template writes out. -/
def Part.paths : Part → List Path
  | .text _ => []
  | .placeholder ⟨.path p, _⟩ => [p]
  | .placeholder ⟨.call c, _⟩ => c.args

/-- A literal has no field paths, so joining literals keeps all. -/
theorem Segment.flatMap_paths_consLiteral (s : String)
    (ss : List Segment) :
    (Segment.consLiteral s ss).flatMap Segment.paths
      = ss.flatMap Segment.paths := by
  unfold Segment.consLiteral
  split
  · rfl
  · split <;> rfl

/-- Merging keeps the field paths. -/
theorem Segment.flatMap_paths_merge (ss : List Segment) :
    (Segment.merge ss).flatMap Segment.paths
      = ss.flatMap Segment.paths := by
  induction ss with
  | nil => rfl
  | cons s ss ih =>
    cases s with
    | literal t =>
      rw [Segment.merge, Segment.flatMap_paths_consLiteral, ih]
      rfl
    | field p => simp [Segment.merge, ih]
    | builtin name f args => simp [Segment.merge, ih]

/-! ## Operands -/

/-- The first parameter of a name has that name. -/
theorem Method.name_of_param?_eq_some {m : Method} {name : String}
    {q : Param} (h : m.param? name = some q) : q.name = name := by
  have hname := List.find?_some h
  simpa using hname

theorem ParamKind.eq_value_of_ne {k : ParamKind} (h : k ≠ .context) :
    k = .value := by
  cases k with
  | value => rfl
  | context => exact absurd rfl h

/-- An operand is resolved to the value parameter at its root, and the
first of its fields is one that the parameter declares, if it declares
any. -/
theorem Path.resolve_eq_ok_iff {m : Method} {p : Path} {q : FieldPath} :
    p.resolve m = .ok q ↔
      ∃ r, m.param? p.root = some r ∧ r.kind = .value
        ∧ (∀ known f fs, r.fields = some known → p.fields = f :: fs →
            f ∈ known)
        ∧ ⟨p.root, p.fields⟩ = q := by
  unfold Path.resolve
  cases hr : m.param? p.root with
  | none => simp
  | some r =>
    have hname := Method.name_of_param?_eq_some hr
    by_cases hkind : r.kind = .context
    · simp [hkind]
    · have hvalue := ParamKind.eq_value_of_ne hkind
      cases hknown : r.fields with
      | none => simp [hvalue, hknown, hname]
      | some known =>
        cases hfields : p.fields with
        | nil => simp [hvalue, hknown, hname]
        | cons f fs =>
          by_cases hf : f ∈ known
          · simp [hvalue, hknown, hname, hf]
          · simp [hvalue, hknown, hf]

/-- Operands are resolved one by one. -/
theorem Path.exists_of_mem_resolveAll {m : Method} {ps : List Path}
    {qs : List FieldPath} (h : Path.resolveAll m ps = .ok qs) :
    ∀ q ∈ qs, ∃ p ∈ ps, p.resolve m = .ok q := by
  induction ps generalizing qs with
  | nil =>
    obtain rfl : [] = qs := by simpa [Path.resolveAll] using h
    simp
  | cons p ps ih =>
    unfold Path.resolveAll at h
    split at h
    · simp at h
    · rename_i q hq
      split at h
      · simp at h
      · rename_i qs' hqs
        obtain rfl : q :: qs' = qs := by simpa using h
        intro r hr
        rcases List.mem_cons.mp hr with rfl | hr
        · exact ⟨p, by simp, hq⟩
        · obtain ⟨p', hp', hr'⟩ := ih hqs r hr
          exact ⟨p', by simp [hp'], hr'⟩

/-! ## Segments -/

/-- Where a field path comes from: one of the operands, or a value
parameter that a builtin takes with all others. -/
inductive FieldPath.Reached (m : Method) (operands : List Path) :
    FieldPath → Prop where
  | operand {p : Path} {q : FieldPath} (hp : p ∈ operands)
      (h : p.resolve m = .ok q) : Reached m operands q
  | param {r : Param} (hr : r ∈ m.valueParams) :
      Reached m operands ⟨r.name, []⟩

/-- More operands reach all the same. -/
theorem FieldPath.Reached.mono {m : Method} {ps ps' : List Path}
    {q : FieldPath} (h : q.Reached m ps) (hsub : ∀ p ∈ ps, p ∈ ps') :
    q.Reached m ps' := by
  cases h with
  | operand hp h => exact .operand (hsub _ hp) h
  | param hr => exact .param hr

section

variable {table : BuiltinTable} {c : Contract} {m : Method}

theorem Call.reached_of_resolve_eq_ok {call : Call} {s : Segment}
    (h : call.resolve table m = .ok s) :
    ∀ q ∈ s.paths, q.Reached m call.args := by
  unfold Call.resolve at h
  split at h
  · simp at h
  · split at h
    · simp at h
    · split at h
      · simp only [Except.ok.injEq] at h
        subst h
        intro q hq
        obtain ⟨r, hr, rfl⟩ := List.mem_map.mp hq
        exact .param hr
      · split at h
        · simp at h
        · rename_i qs hqs
          simp only [Except.ok.injEq] at h
          subst h
          intro q hq
          obtain ⟨p, hp, hresolve⟩ := Path.exists_of_mem_resolveAll hqs q hq
          exact .operand hp hresolve

theorem Path.reached_of_resolveBare_eq_ok {p : Path} {s : Segment}
    (h : p.resolveBare table c m = .ok s) :
    ∀ q ∈ s.paths, q.Reached m [p] := by
  unfold Path.resolveBare at h
  split at h
  · split at h
    · simp at h
    · simp only [Except.ok.injEq] at h
      subst h
      simp [Segment.paths]
  · split at h
    · split at h
      · simp at h
      · rename_i q hq
        simp only [Except.ok.injEq] at h
        subst h
        intro r hr
        obtain rfl : r = q := by simpa [Segment.paths] using hr
        exact .operand (by simp) hq
    · split at h
      · intro q hq
        exact (Call.reached_of_resolve_eq_ok h q hq).mono (by simp)
      · simp at h

theorem Part.reached_of_resolve_eq_ok {p : Part} {s : Segment}
    (h : p.resolve table c m = .ok s) :
    ∀ q ∈ s.paths, q.Reached m p.paths := by
  unfold Part.resolve at h
  split at h
  · simp only [Except.ok.injEq] at h
    subst h
    simp [Segment.paths]
  · exact Call.reached_of_resolve_eq_ok h
  · exact Path.reached_of_resolveBare_eq_ok h

/-- Parts are resolved one by one. -/
theorem Part.mem_of_resolveAll_eq_ok {ps : List Part} {ss : List Segment}
    (h : resolveAll table c m ps = .ok ss) :
    (∀ p ∈ ps, ∃ s ∈ ss, p.resolve table c m = .ok s)
      ∧ ∀ s ∈ ss, ∃ p ∈ ps, p.resolve table c m = .ok s := by
  induction ps generalizing ss with
  | nil =>
    obtain rfl : [] = ss := by simpa [resolveAll] using h
    simp
  | cons p ps ih =>
    unfold resolveAll at h
    split at h
    · cases h
    · rename_i s hs
      split at h
      · cases h
      · rename_i ss' hss
        cases h
        obtain ⟨hparts, hsegments⟩ := ih hss
        simp only [List.mem_cons, forall_eq_or_imp, exists_eq_or_imp]
        exact ⟨⟨.inl hs, fun q hq => .inr (hparts q hq)⟩,
          .inl hs, fun t ht => .inr (hsegments t ht)⟩

theorem Part.reached_of_resolveAll_eq_ok {ps : List Part}
    {ss : List Segment} (h : Part.resolveAll table c m ps = .ok ss) :
    ∀ q ∈ ss.flatMap Segment.paths, q.Reached m (ps.flatMap Part.paths) := by
  intro q hq
  obtain ⟨s, hs, hq⟩ := List.mem_flatMap.mp hq
  obtain ⟨p, hp, hresolve⟩ := (Part.mem_of_resolveAll_eq_ok h).2 s hs
  exact (Part.reached_of_resolve_eq_ok hresolve q hq).mono
    fun r hr => List.mem_flatMap.mpr ⟨p, hp, hr⟩

end

/-! ## Key templates -/

namespace KeyTemplate

variable {table : BuiltinTable} {c : Contract} {m : Method}
  {source : String} {k : KeyTemplate}

/-- A text compiles to the segments of the parts that it parses to. -/
theorem compile_eq_ok_iff :
    compile table c m source = .ok k
      ↔ ∃ t ss, Template.parse source = .ok t
          ∧ Part.resolveAll table c m t.parts = .ok ss
          ∧ k = ⟨source, Segment.merge ss⟩ := by
  rw [compile]
  cases hparse : Template.parse source with
  | error e => simp
  | ok t =>
    cases hparts : Part.resolveAll table c m t.parts with
    | error e => simp [ofTemplate, hparts, Except.map]
    | ok ss => simp [ofTemplate, hparts, Except.map, eq_comm]

/-- The field paths of a compiled template come from the operands of its
parts. -/
theorem reached_of_compile_eq_ok (h : compile table c m source = .ok k) :
    ∃ t, Template.parse source = .ok t ∧
      ∀ q ∈ k.paths, q.Reached m (t.parts.flatMap Part.paths) := by
  obtain ⟨t, ss, hparse, hparts, rfl⟩ := compile_eq_ok_iff.mp h
  refine ⟨t, hparse, ?_⟩
  rw [paths, Segment.flatMap_paths_merge]
  exact Part.reached_of_resolveAll_eq_ok hparts

end KeyTemplate

end PolicyWeave
