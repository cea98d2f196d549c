import Mathlib.Data.List.Forall2
import PolicyWeave.Proofs.Template.KeyNames
import PolicyWeave.Template.Evaluate

/-!
# The rules of resolution

What each part of a template means, given by rules, and the proof that
compilation follows them.  A meaning is a text that depends on the
arguments; a part without a meaning has an error.

There are four groups.

* `InOrder` reads a list from left to right: all items have values, or
  the first one without a value gives the error.
* The rules.  `Path.Denotes` is for operands, `Call.Denotes` for calls,
  `Path.StandsFor` for paths that stand alone, and `Part.Means` for
  parts.
* One `iff` lemma a set of rules: they hold of the outcome of the function
  that resolves, and of no other.
* `KeyTemplate.ofTemplate_iff_rules` is about whole templates.
-/

namespace PolicyWeave

/-! ## Lists in order -/

/-- A list read from left to right.  Either every item has a value, or
the error is that of the first item without one. -/
inductive InOrder {α β ε : Type} (R : α → Except ε β → Prop) :
    List α → Except ε (List β) → Prop where
  | all {as : List α} {bs : List β}
      (h : List.Forall₂ (fun a b => R a (.ok b)) as bs) :
      InOrder R as (.ok bs)
  | first {a : α} {e : ε} (before after : List α)
      (hbefore : ∀ x ∈ before, ∃ b, R x (.ok b)) (ha : R a (.error e)) :
      InOrder R (before ++ a :: after) (.error e)

namespace InOrder

variable {α β ε : Type} {R : α → Except ε β → Prop}

/-- Nothing is read of nothing. -/
theorem nil_iff {r : Except ε (List β)} :
    InOrder R [] r ↔ r = .ok [] := by
  constructor
  · intro h
    generalize hlist : ([] : List α) = list at h
    cases h with
    | all h =>
      subst hlist
      cases h
      rfl
    | first => simp at hlist
  · rintro rfl
    exact .all .nil

/-- The first item gives its error, or its value stands in front of what
is read of the others. -/
theorem cons_iff {a : α} {as : List α} {r : Except ε (List β)} :
    InOrder R (a :: as) r ↔
      (∃ e, R a (.error e) ∧ r = .error e)
        ∨ ∃ b r', R a (.ok b) ∧ InOrder R as r' ∧ r = r'.map (b :: ·) := by
  constructor
  · intro h
    generalize hlist : a :: as = list at h
    cases h with
    | all h =>
      subst hlist
      cases h with
      | cons hb hbs => exact .inr ⟨_, .ok _, hb, .all hbs, rfl⟩
    | @first x e before after hbefore hx =>
      cases before with
      | nil =>
        obtain ⟨rfl, rfl⟩ : a = x ∧ as = after := by simpa using hlist
        exact .inl ⟨e, hx, rfl⟩
      | cons y before =>
        obtain ⟨rfl, rfl⟩ : a = y ∧ as = before ++ x :: after := by
          simpa using hlist
        obtain ⟨b, hb⟩ := hbefore a (by simp)
        have hrest : InOrder R (before ++ x :: after) (.error e) :=
          .first _ _ (fun z hz => hbefore z (by simp [hz])) hx
        exact .inr ⟨b, .error e, hb, hrest, rfl⟩
  · rintro (⟨e, he, rfl⟩ | ⟨b, r', hb, hr, rfl⟩)
    · exact .first [] _ (by simp) he
    · cases hr with
      | all h => exact .all (.cons hb h)
      | @first x e before after hbefore hx =>
        refine .first (a :: before) after ?_ hx
        intro y hy
        rcases List.mem_cons.mp hy with rfl | hy
        · exact ⟨b, hb⟩
        · exact hbefore y hy

/-- Every item of a list that is read to its end has a value. -/
theorem exists_of_mem {as : List α} {bs : List β}
    (h : InOrder R as (.ok bs)) : ∀ a ∈ as, ∃ b, R a (.ok b) := by
  cases h with
  | all h =>
    induction h with
    | nil => simp
    | cons ha _ ih =>
      intro x hx
      rcases List.mem_cons.mp hx with rfl | hx
      · exact ⟨_, ha⟩
      · exact ih x hx

/-- The error of a list is that of an item. -/
theorem exists_error {as : List α} {e : ε}
    (h : InOrder R as (.error e)) : ∃ a ∈ as, R a (.error e) := by
  cases h with
  | first _ _ _ ha => exact ⟨_, by simp, ha⟩

/-- A relation that is a function on items is one on lists: `all` reads a
list by asking `one` about each item. -/
theorem iff_eq {one : α → Except ε β} (all : List α → Except ε (List β))
    (hnil : all [] = .ok [])
    (hcons : ∀ a as, all (a :: as) =
      (one a).bind fun b => (all as).map (b :: ·))
    (hone : ∀ a r, R a r ↔ r = one a) (as : List α)
    (r : Except ε (List β)) : InOrder R as r ↔ r = all as := by
  induction as generalizing r with
  | nil => rw [nil_iff, hnil]
  | cons a as ih =>
    rw [cons_iff, hcons]
    simp only [hone, ih]
    cases one a with
    | error e => simp [Except.bind]
    | ok b => simp [Except.bind]

end InOrder

/-! ## The rules -/

/-- What an operand denotes.  Its root names a value parameter, and its
first field is one of the declared fields if any are declared. -/
inductive Path.Denotes (m : Method) (p : Path) :
    Except TemplateError (Arguments → Json) → Prop where
  | unknown (hq : m.param? p.root = none) :
      Denotes m p (.error (.unknownParameter p.root p.span.start))
  | context {q : Param} (hq : m.param? p.root = some q)
      (hkind : q.kind = .context) :
      Denotes m p (.error (.contextOperand p.root p.span.start))
  | undeclared {q : Param} {known : List String} {f : String}
      {fs : List String} (hq : m.param? p.root = some q)
      (hkind : q.kind = .value) (hknown : q.fields = some known)
      (hfields : p.fields = f :: fs) (hf : f ∉ known) :
      Denotes m p (.error (.unknownField p.root f p.span.start))
  | value {q : Param} (hq : m.param? p.root = some q)
      (hkind : q.kind = .value)
      (hdeclared : ∀ known f fs, q.fields = some known →
        p.fields = f :: fs → f ∈ known) :
      Denotes m p (.ok fun args => args.resolve ⟨p.root, p.fields⟩)

/-- The one value that a builtin is given for several. -/
def Json.operandOf : List Json → Json
  | [v] => v
  | vs => .array vs

/-- What a call denotes.  The builtin is looked up, then the number of
operands is checked, then the operands are read in order.  A variadic
builtin without operands takes all value parameters in the order in which
they are declared. -/
inductive Call.Denotes (table : BuiltinTable) (m : Method) (c : Call) :
    Except TemplateError (Arguments → String) → Prop where
  | unknown (hb : table.get? c.name = none) :
      Denotes table m c (.error (.unknownBuiltin c.name c.span.start))
  | wrongArity {b : Builtin} {n : Nat} (hb : table.get? c.name = some b)
      (hn : b.arity = .exactly n) (hlen : c.args.length ≠ n) :
      Denotes table m c (.error
        (.wrongArity c.name (Number.natText n) c.args.length c.span.start))
  | everything {b : Builtin} (hb : table.get? c.name = some b)
      (hn : b.arity = .variadic) (hargs : c.args = []) :
      Denotes table m c (.ok fun args => b.function.apply
        (Json.operandOf
          (m.valueParams.map fun q => (args.lookup q.name).getD .null)))
  | operands {b : Builtin} {vs : List (Arguments → Json)}
      (hb : table.get? c.name = some b)
      (hn : b.arity = .exactly c.args.length
        ∨ b.arity = .variadic ∧ c.args ≠ [])
      (hvs : InOrder (Path.Denotes m) c.args (.ok vs)) :
      Denotes table m c (.ok fun args => b.function.apply
        (Json.operandOf (vs.map fun v => v args)))
  | operandError {b : Builtin} {e : TemplateError}
      (hb : table.get? c.name = some b)
      (hn : b.arity = .exactly c.args.length
        ∨ b.arity = .variadic ∧ c.args ≠ [])
      (he : InOrder (Path.Denotes m) c.args (.error e)) :
      Denotes table m c (.error e)

/-- The reserved names and the texts that they stand for. -/
inductive Reserved (c : Contract) (m : Method) : String → String → Prop
    where
  | package : Reserved c m "PKG" c.package
  | interface : Reserved c m "INTERFACE" c.name
  | method : Reserved c m "METHOD" m.name

/-- What a path that stands alone stands for: a reserved name comes
before a parameter, and a parameter before a builtin. -/
inductive Path.StandsFor (table : BuiltinTable) (c : Contract)
    (m : Method) (p : Path) :
    Except TemplateError (Arguments → String) → Prop where
  | reserved {text : String} (hr : Reserved c m p.root text)
      (hfields : p.fields = []) : StandsFor table c m p (.ok fun _ => text)
  | reservedField {text f : String} {fs : List String}
      (hr : Reserved c m p.root text) (hfields : p.fields = f :: fs) :
      StandsFor table c m p
        (.error (.unknownField p.root f p.span.start))
  | param {v : Arguments → Json} (hr : ∀ text, ¬ Reserved c m p.root text)
      (hq : ∃ q ∈ m.params, q.name = p.root) (hv : p.Denotes m (.ok v)) :
      StandsFor table c m p (.ok fun args => (v args).segment)
  | paramError {e : TemplateError}
      (hr : ∀ text, ¬ Reserved c m p.root text)
      (hq : ∃ q ∈ m.params, q.name = p.root)
      (he : p.Denotes m (.error e)) : StandsFor table c m p (.error e)
  | builtin {b : Builtin} {r : Except TemplateError (Arguments → String)}
      (hr : ∀ text, ¬ Reserved c m p.root text)
      (hq : ∀ q ∈ m.params, q.name ≠ p.root) (hfields : p.fields = [])
      (hb : table.get? p.root = some b)
      (hcall : Call.Denotes table m ⟨p.root, [], p.span⟩ r) :
      StandsFor table c m p r
  | unknown (hr : ∀ text, ¬ Reserved c m p.root text)
      (hq : ∀ q ∈ m.params, q.name ≠ p.root)
      (hb : p.fields ≠ [] ∨ table.get? p.root = none) :
      StandsFor table c m p
        (.error (.unknownParameter p.root p.span.start))

/-- What a part means: text means itself, and a placeholder what its
path or call does. -/
inductive Part.Means (table : BuiltinTable) (c : Contract) (m : Method) :
    Part → Except TemplateError (Arguments → String) → Prop where
  | text (s : String) : Means table c m (.text s) (.ok fun _ => s)
  | path {p : Path} {r : Except TemplateError (Arguments → String)}
      (h : p.StandsFor table c m r) (span : Span) :
      Means table c m (.placeholder ⟨.path p, span⟩) r
  | call {call : Call} {r : Except TemplateError (Arguments → String)}
      (h : call.Denotes table m r) (span : Span) :
      Means table c m (.placeholder ⟨.call call, span⟩) r

/-! ## Operands -/

/-- The rules for operands hold of the outcome of `Path.resolve`. -/
theorem Path.denotes_resolve (m : Method) (p : Path) :
    p.Denotes m ((p.resolve m).map fun q args => args.resolve q) := by
  unfold Path.resolve
  cases hq : m.param? p.root with
  | none => exact .unknown hq
  | some q =>
    have hname := Method.name_of_param?_eq_some hq
    by_cases hkind : q.kind = .context
    · simp only [hkind, if_true, hname]
      exact .context hq hkind
    · have hvalue := ParamKind.eq_value_of_ne hkind
      simp only [hkind, if_false, hname]
      cases hknown : q.fields with
      | none =>
        refine .value hq hvalue ?_
        intro known f fs h
        rw [hknown] at h
        cases h
      | some known =>
        cases hfields : p.fields with
        | nil =>
          have := Denotes.value (p := p) hq hvalue (by simp [hfields])
          simpa [hfields, Except.map] using this
        | cons f fs =>
          simp only [List.head?_cons]
          by_cases hf : f ∈ known
          · have := Denotes.value (p := p) hq hvalue
              (by simp [hfields, hknown, hf])
            simpa [hf, hfields, Except.map] using this
          · simpa [hf, Except.map]
              using Denotes.undeclared hq hvalue hknown hfields hf

/-- They hold of nothing else. -/
theorem Path.Denotes.eq_resolve {m : Method} {p : Path}
    {r : Except TemplateError (Arguments → Json)} (h : p.Denotes m r) :
    r = (p.resolve m).map fun q args => args.resolve q := by
  unfold Path.resolve
  cases h with
  | unknown hq => simp [hq, Except.map]
  | context hq hkind =>
    simp [hq, hkind, Except.map, Method.name_of_param?_eq_some hq]
  | undeclared hq hkind hknown hfields hf =>
    simp [hq, hkind, hknown, hfields, hf, Except.map,
      Method.name_of_param?_eq_some hq]
  | @value q hq hkind hdeclared =>
    simp only [hq, hkind, Method.name_of_param?_eq_some hq]
    cases hknown : q.fields with
    | none => rfl
    | some known =>
      cases hfields : p.fields with
      | nil => rfl
      | cons f fs => simp [hdeclared known f fs hknown hfields, Except.map]

theorem Path.denotes_iff (m : Method) (p : Path)
    (r : Except TemplateError (Arguments → Json)) :
    p.Denotes m r ↔
      r = (p.resolve m).map fun q args => args.resolve q := by
  constructor
  · exact Denotes.eq_resolve
  · rintro rfl
    exact p.denotes_resolve m

/-- Operands read in order have the outcomes of `Path.resolveAll`. -/
theorem Path.inOrder_denotes_iff (m : Method) (ps : List Path)
    (r : Except TemplateError (List (Arguments → Json))) :
    InOrder (Path.Denotes m) ps r ↔
      r = (Path.resolveAll m ps).map
        (List.map fun q args => args.resolve q) := by
  refine InOrder.iff_eq
    (fun ps => (Path.resolveAll m ps).map
      (List.map fun q args => args.resolve q))
    rfl ?_ (Path.denotes_iff m) ps r
  intro p ps
  cases hp : p.resolve m with
  | error e => simp [Path.resolveAll, hp, Except.map, Except.bind]
  | ok q =>
    cases hps : Path.resolveAll m ps with
    | error e => simp [Path.resolveAll, hp, hps, Except.map, Except.bind]
    | ok qs => simp [Path.resolveAll, hp, hps, Except.map, Except.bind]

/-! ## Calls -/

theorem Arguments.operand_eq_operandOf (args : Arguments)
    (ps : List FieldPath) :
    args.operand ps = Json.operandOf (ps.map args.resolve) := by
  match ps with
  | [] => rfl
  | [_] => rfl
  | _ :: _ :: _ => rfl

/-- A parameter without fields is looked up and no more. -/
theorem Arguments.resolve_param (args : Arguments) (name : String) :
    args.resolve ⟨name, []⟩ = (List.lookup name args).getD .null := by
  unfold Arguments.resolve
  cases List.lookup name args <;> rfl

/-- The text of a builtin, as the rules put it. -/
theorem Segment.evaluate_builtin (name : String) (f : KeyFunction)
    (ps : List FieldPath) :
    (fun args => (Segment.builtin name f ps).evaluate args)
      = fun args => f.apply (Json.operandOf
          ((ps.map fun q (args : Arguments) => args.resolve q).map
            fun v => v args)) := by
  funext args
  rw [Segment.evaluate, Arguments.operand_eq_operandOf, List.map_map]
  rfl

/-- The text of a builtin on all value parameters, as the rules put
it. -/
theorem Segment.evaluate_builtin_params (name : String)
    (f : KeyFunction) (qs : List Param) :
    (fun args =>
        (Segment.builtin name f (qs.map fun q => ⟨q.name, []⟩)).evaluate
          args)
      = fun args : Arguments => f.apply (Json.operandOf
          (qs.map fun q => (args.lookup q.name).getD .null)) := by
  funext args
  rw [Segment.evaluate, Arguments.operand_eq_operandOf, List.map_map]
  congr 2
  exact List.map_congr_left fun q _ => args.resolve_param q.name

/-- A variadic builtin without operands is resolved to all value
parameters. -/
theorem Call.resolve_of_everything {table : BuiltinTable} {m : Method}
    {c : Call} {b : Builtin} (hb : table.get? c.name = some b)
    (hn : b.arity = .variadic) (hargs : c.args = []) :
    c.resolve table m = .ok (.builtin c.name b.function
      (m.valueParams.map fun q => ⟨q.name, []⟩)) := by
  simp [Call.resolve, hb, hn, hargs, Arity.accepts, Arity.isVariadic]

/-- A wrong number of operands is an error. -/
theorem Call.resolve_of_wrongArity {table : BuiltinTable} {m : Method}
    {c : Call} {b : Builtin} {n : Nat} (hb : table.get? c.name = some b)
    (hn : b.arity = .exactly n) (hlen : c.args.length ≠ n) :
    c.resolve table m = .error
      (.wrongArity c.name (Number.natText n) c.args.length
        c.span.start) := by
  simp [Call.resolve, hb, hn, Ne.symm hlen, Arity.accepts, Arity.describe]

/-- In all other cases the operands decide. -/
theorem Call.resolve_of_operands {table : BuiltinTable} {m : Method}
    {c : Call} {b : Builtin} (hb : table.get? c.name = some b)
    (hn : b.arity = .exactly c.args.length
      ∨ b.arity = .variadic ∧ c.args ≠ []) :
    c.resolve table m =
      (Path.resolveAll m c.args).map (.builtin c.name b.function) := by
  unfold Call.resolve
  rcases hn with hn | ⟨hn, hargs⟩
  · simp only [hb, hn, Arity.accepts, Arity.isVariadic]
    cases Path.resolveAll m c.args <;> simp [Except.map]
  · simp only [hb, hn, Arity.accepts, Arity.isVariadic]
    cases Path.resolveAll m c.args <;> simp [hargs, Except.map]

/-- The rules for calls hold of the outcome of `Call.resolve`. -/
theorem Call.denotes_resolve (table : BuiltinTable) (m : Method)
    (c : Call) :
    c.Denotes table m
      ((c.resolve table m).map fun s args => s.evaluate args) := by
  cases hb : table.get? c.name with
  | none => simpa [Call.resolve, hb, Except.map] using Denotes.unknown hb
  | some b =>
    have hoperands (hn : b.arity = .exactly c.args.length
        ∨ b.arity = .variadic ∧ c.args ≠ []) :
        c.Denotes table m
          ((c.resolve table m).map fun s args => s.evaluate args) := by
      rw [resolve_of_operands hb hn]
      have hall := (Path.inOrder_denotes_iff m c.args _).mpr rfl
      cases hargs : Path.resolveAll m c.args with
      | error e =>
        rw [hargs] at hall
        exact .operandError hb hn hall
      | ok qs =>
        rw [hargs] at hall
        simp only [Except.map, Segment.evaluate_builtin]
        exact .operands hb hn hall
    cases hn : b.arity with
    | exactly n =>
      by_cases hlen : c.args.length = n
      · exact hoperands (.inl (hlen ▸ hn))
      · rw [resolve_of_wrongArity hb hn hlen]
        exact .wrongArity hb hn hlen
    | variadic =>
      by_cases hargs : c.args = []
      · rw [resolve_of_everything hb hn hargs]
        simp only [Except.map, Segment.evaluate_builtin_params]
        exact .everything hb hn hargs
      · exact hoperands (.inr ⟨hn, hargs⟩)

/-- They hold of nothing else. -/
theorem Call.Denotes.eq_resolve {table : BuiltinTable} {m : Method}
    {c : Call} {r : Except TemplateError (Arguments → String)}
    (h : c.Denotes table m r) :
    r = (c.resolve table m).map fun s args => s.evaluate args := by
  cases h with
  | unknown hb => simp [Call.resolve, hb, Except.map]
  | wrongArity hb hn hlen => rw [resolve_of_wrongArity hb hn hlen]; rfl
  | everything hb hn hargs =>
    rw [resolve_of_everything hb hn hargs]
    simp only [Except.map, Segment.evaluate_builtin_params]
  | operands hb hn hvs =>
    rw [resolve_of_operands hb hn]
    rw [Path.inOrder_denotes_iff] at hvs
    cases hargs : Path.resolveAll m c.args with
    | error e =>
      rw [hargs] at hvs
      cases hvs
    | ok qs =>
      rw [hargs] at hvs
      cases hvs
      simp only [Except.map, Segment.evaluate_builtin]
  | operandError hb hn he =>
    rw [resolve_of_operands hb hn]
    rw [Path.inOrder_denotes_iff] at he
    cases hargs : Path.resolveAll m c.args with
    | error e =>
      rw [hargs] at he
      cases he
      rfl
    | ok qs =>
      rw [hargs] at he
      cases he

theorem Call.denotes_iff (table : BuiltinTable) (m : Method) (c : Call)
    (r : Except TemplateError (Arguments → String)) :
    c.Denotes table m r ↔
      r = (c.resolve table m).map fun s args => s.evaluate args := by
  constructor
  · exact Denotes.eq_resolve
  · rintro rfl
    exact c.denotes_resolve table m

/-! ## Paths that stand alone -/

section

variable {table : BuiltinTable} {c : Contract} {m : Method}

/-- A name is reserved for the text that `ReservedName.resolve` gives
it. -/
theorem reserved_iff {name text : String} :
    Reserved c m name text ↔
      ∃ r, ReservedName.ofText? name = some r ∧ r.resolve c m = text := by
  constructor
  · intro h
    cases h with
    | package => exact ⟨.package, by decide, rfl⟩
    | interface => exact ⟨.interface, by decide, rfl⟩
    | method => exact ⟨.method, by decide, rfl⟩
  · rintro ⟨r, hr, rfl⟩
    have hname : r.text = name := by simpa using List.find?_some hr
    subst hname
    cases r with
    | package => exact .package
    | interface => exact .interface
    | method => exact .method

theorem ofText?_eq_none {name : String}
    (h : ∀ text, ¬ Reserved c m name text) :
    ReservedName.ofText? name = none := by
  cases hr : ReservedName.ofText? name with
  | none => rfl
  | some r => exact absurd (reserved_iff.mpr ⟨r, hr, rfl⟩) (h _)

theorem not_reserved_of_ofText?_eq_none {name : String}
    (h : ReservedName.ofText? name = none) (text : String) :
    ¬ Reserved c m name text := by
  intro hr
  obtain ⟨r, hr, -⟩ := reserved_iff.mp hr
  rw [h] at hr
  cases hr

/-- A name that is no parameter's is not found. -/
theorem Method.isSome_param?_iff {name : String} :
    (m.param? name).isSome = true ↔ ∃ q ∈ m.params, q.name = name := by
  simp [Method.param?]

theorem Method.param?_eq_none_iff {name : String} :
    m.param? name = none ↔ ∀ q ∈ m.params, q.name ≠ name := by
  simp [Method.param?]

/-- The rules for paths that stand alone hold of the outcome of
`Path.resolveBare`. -/
theorem Path.standsFor_resolveBare (p : Path) :
    p.StandsFor table c m
      ((p.resolveBare table c m).map fun s args => s.evaluate args) := by
  unfold Path.resolveBare
  cases hr : ReservedName.ofText? p.root with
  | some r =>
    have hres : Reserved c m p.root (r.resolve c m) :=
      reserved_iff.mpr ⟨r, hr, rfl⟩
    cases hfields : p.fields with
    | nil => exact .reserved hres hfields
    | cons f fs => exact .reservedField hres hfields
  | none =>
    have hres := not_reserved_of_ofText?_eq_none (c := c) (m := m) hr
    cases hq : m.param? p.root with
    | some q =>
      have hmem := Method.isSome_param?_iff.mp (by rw [hq]; rfl)
      have hdenotes := p.denotes_resolve m
      cases hp : p.resolve m with
      | error e =>
        rw [hp] at hdenotes
        exact .paramError hres hmem hdenotes
      | ok fp =>
        rw [hp] at hdenotes
        exact .param hres hmem hdenotes
    | none =>
      have hmem := Method.param?_eq_none_iff.mp hq
      cases hfields : p.fields with
      | cons f fs => exact .unknown hres hmem (.inl (by simp [hfields]))
      | nil =>
        cases hb : table.get? p.root with
        | none =>
          simp only [BuiltinTable.contains, hb]
          exact .unknown hres hmem (.inr hb)
        | some b =>
          simp only [BuiltinTable.contains, hb]
          exact .builtin hres hmem hfields hb
            (Call.denotes_resolve table m ⟨p.root, [], p.span⟩)

/-- They hold of nothing else. -/
theorem Path.StandsFor.eq_resolveBare {p : Path}
    {r : Except TemplateError (Arguments → String)}
    (h : p.StandsFor table c m r) :
    r = (p.resolveBare table c m).map fun s args => s.evaluate args := by
  unfold Path.resolveBare
  cases h with
  | reserved hr hfields =>
    obtain ⟨name, hname, rfl⟩ := reserved_iff.mp hr
    simp only [hname, hfields]
    rfl
  | reservedField hr hfields =>
    obtain ⟨name, hname, rfl⟩ := reserved_iff.mp hr
    simp only [hname, hfields]
    rfl
  | param hr hq hv =>
    have hv := hv.eq_resolve
    simp only [ofText?_eq_none hr, Method.isSome_param?_iff.mpr hq]
    cases hp : p.resolve m with
    | error e =>
      rw [hp] at hv
      cases hv
    | ok fp =>
      rw [hp] at hv
      cases hv
      rfl
  | paramError hr hq he =>
    have he := he.eq_resolve
    simp only [ofText?_eq_none hr, Method.isSome_param?_iff.mpr hq]
    cases hp : p.resolve m with
    | error e =>
      rw [hp] at he
      cases he
      rfl
    | ok fp =>
      rw [hp] at he
      cases he
  | builtin hr hq hfields hb hcall =>
    simp only [ofText?_eq_none hr, Method.param?_eq_none_iff.mpr hq,
      hfields, BuiltinTable.contains, hb]
    exact hcall.eq_resolve
  | unknown hr hq hb =>
    simp only [ofText?_eq_none hr, Method.param?_eq_none_iff.mpr hq]
    rcases hb with hfields | hb
    · simp [hfields, Except.map]
    · simp [BuiltinTable.contains, hb, Except.map]

/-! ## Parts -/

/-- The rules for parts hold of the outcome of `Part.resolve` and of
nothing else. -/
theorem Part.means_iff (p : Part)
    (r : Except TemplateError (Arguments → String)) :
    p.Means table c m r ↔
      r = (p.resolve table c m).map fun s args => s.evaluate args := by
  constructor
  · intro h
    cases h with
    | text s => rfl
    | path h _ => exact h.eq_resolveBare
    | call h _ => exact h.eq_resolve
  · rintro rfl
    match p with
    | .text s => exact .text s
    | .placeholder ⟨.path p, span⟩ =>
      exact .path p.standsFor_resolveBare span
    | .placeholder ⟨.call call, span⟩ =>
      exact .call (call.denotes_resolve table m) span

/-- Parts read in order have the outcomes of `Part.resolveAll`. -/
theorem Part.inOrder_means_iff (ps : List Part)
    (r : Except TemplateError (List (Arguments → String))) :
    InOrder (Part.Means table c m) ps r ↔
      r = (Part.resolveAll table c m ps).map
        (List.map fun s args => s.evaluate args) := by
  refine InOrder.iff_eq
    (fun ps => (Part.resolveAll table c m ps).map
      (List.map fun s args => s.evaluate args))
    rfl ?_ Part.means_iff ps r
  intro p ps
  cases hp : p.resolve table c m with
  | error e => simp [Part.resolveAll, hp, Except.map, Except.bind]
  | ok s =>
    cases hps : Part.resolveAll table c m ps with
    | error e => simp [Part.resolveAll, hp, hps, Except.map, Except.bind]
    | ok ss => simp [Part.resolveAll, hp, hps, Except.map, Except.bind]

end

/-! ## Assembly -/

/-- A literal in front of segments adds its text. -/
theorem Segment.evaluateAll_consLiteral (args : Arguments) (s : String)
    (ss : List Segment) :
    Segment.evaluateAll args (Segment.consLiteral s ss)
      = s ++ Segment.evaluateAll args ss := by
  unfold Segment.consLiteral
  split
  · simp [Segment.evaluateAll, Segment.evaluate, String.append_assoc]
  · split
    · rename_i hempty
      simp [String.isEmpty_iff.mp hempty]
    · rfl

/-- Merging keeps the text. -/
theorem Segment.evaluateAll_merge (args : Arguments)
    (ss : List Segment) :
    Segment.evaluateAll args (Segment.merge ss)
      = Segment.evaluateAll args ss := by
  induction ss with
  | nil => rfl
  | cons s ss ih =>
    cases s with
    | literal t =>
      rw [Segment.merge, Segment.evaluateAll_consLiteral, ih]
      rfl
    | field p => simp [Segment.merge, Segment.evaluateAll, ih]
    | builtin name f ps => simp [Segment.merge, Segment.evaluateAll, ih]

/-- The text of segments is the texts of the segments, joined. -/
theorem Segment.evaluateAll_eq_join (args : Arguments)
    (ss : List Segment) :
    Segment.evaluateAll args ss
      = String.join (ss.map fun s => s.evaluate args) := by
  induction ss with
  | nil => rfl
  | cons s ss ih =>
    rw [Segment.evaluateAll, ih, List.map_cons, String.join_cons]

/-! ## Templates -/

namespace KeyTemplate

variable {table : BuiltinTable} {c : Contract} {m : Method}
  {source : String} {t : Template}

/-- A template fails to compile with the error of its parts in order. -/
theorem ofTemplate_eq_error_iff {e : TemplateError} :
    ofTemplate table c m source t = .error e ↔
      InOrder (Part.Means table c m) t.parts (.error e) := by
  rw [Part.inOrder_means_iff]
  cases hparts : Part.resolveAll table c m t.parts with
  | error e' => simp [ofTemplate, hparts, Except.map, eq_comm]
  | ok ss => simp [ofTemplate, hparts, Except.map]

/-- A template compiles to the texts of its parts in order. -/
theorem ofTemplate_evaluate_iff (args : Arguments) (text : String) :
    (∃ k, ofTemplate table c m source t = .ok k
        ∧ k.evaluate args = text) ↔
      ∃ fs, InOrder (Part.Means table c m) t.parts (.ok fs)
        ∧ text = String.join (fs.map fun f => f args) := by
  simp only [Part.inOrder_means_iff]
  cases hparts : Part.resolveAll table c m t.parts with
  | error e => simp [ofTemplate, hparts, Except.map]
  | ok ss =>
    have htext : KeyTemplate.evaluate ⟨source, Segment.merge ss⟩ args
        = String.join ((ss.map fun s args => s.evaluate args).map
            fun f => f args) := by
      rw [KeyTemplate.evaluate, Segment.evaluateAll_merge,
        Segment.evaluateAll_eq_join, List.map_map]
      rfl
    simp only [ofTemplate, hparts, Except.map, Except.ok.injEq,
      exists_eq_left', htext, exists_eq_left]
    exact eq_comm

/-- Compilation follows the rules.  Each part has exactly one outcome;
a template compiles exactly if no part has an error; if it does not, the
error is that of the first part with one; and if it does, the key is, for
all arguments, the meanings of the parts one after the other. -/
theorem ofTemplate_iff_rules (table : BuiltinTable) (c : Contract)
    (m : Method) (source : String) (t : Template) :
    (∀ p : Part, ∃! r, p.Means table c m r)
      ∧ ((∃ k, ofTemplate table c m source t = .ok k) ↔
          ∀ p ∈ t.parts, ∀ e, ¬ p.Means table c m (.error e))
      ∧ (∀ e, ofTemplate table c m source t = .error e ↔
          InOrder (Part.Means table c m) t.parts (.error e))
      ∧ ∀ args text,
          (∃ k, ofTemplate table c m source t = .ok k
            ∧ k.evaluate args = text) ↔
          ∃ fs, InOrder (Part.Means table c m) t.parts (.ok fs)
            ∧ text = String.join (fs.map fun f => f args) := by
  have hunique (p : Part) : ∃! r, p.Means table c m r :=
    ⟨_, (Part.means_iff p _).mpr rfl, fun r h => (Part.means_iff p r).mp h⟩
  refine ⟨hunique, ?_, fun e => ofTemplate_eq_error_iff,
    ofTemplate_evaluate_iff⟩
  constructor
  · rintro ⟨k, hk⟩ p hp e he
    obtain ⟨fs, hall, -⟩ :=
      (ofTemplate_evaluate_iff [] _).mp ⟨k, hk, rfl⟩
    obtain ⟨f, hf⟩ := hall.exists_of_mem p hp
    cases (hunique p).unique he hf
  · intro hno
    cases hk : ofTemplate table c m source t with
    | ok k => exact ⟨k, rfl⟩
    | error e =>
      obtain ⟨p, hp, he⟩ :=
        (ofTemplate_eq_error_iff.mp hk).exists_error
      exact absurd he (hno p hp e)

end KeyTemplate

end PolicyWeave
