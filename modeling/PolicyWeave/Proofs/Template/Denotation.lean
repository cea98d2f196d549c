import PolicyWeave.Proofs.Config.Paths
import PolicyWeave.Proofs.Template.ExpressionReader
import PolicyWeave.Sample.Contracts
import PolicyWeave.Template.Evaluate

/-!
# What key expressions mean

A key template is rendered in two ways: `KeyTemplate.evaluate` joins the
texts of its segments, and generated code runs the expression that
`KeyTemplate.expression` writes.  This module gives expressions a meaning
of their own and proves that the two agree.

* `fill?` reads a format string: doubled braces stand for braces, each
  hole takes the next argument, and no argument may be left over.
* `KeyExpression.meaning?` is the text that an expression denotes.  A
  callee is a key function only under the path of the runtime.
* `KeyTemplate.meaning?_expression`: for every key template of a plan and
  all settings without a fault, the expression denotes the key.
-/

namespace PolicyWeave

/-! ## Format strings -/

/-- The text of a format string with its arguments filled in.  There are
as many holes as arguments. -/
def fill? : List Char → List String → Option (List Char)
  | [], [] => some []
  | [], _ :: _ => none
  | [c], args =>
    if c == '{' || c == '}' then none else (fill? [] args).map (c :: ·)
  | c :: d :: cs, args =>
    if c == '{' then
      if d == '{' then (fill? cs args).map ('{' :: ·)
      else if d == '}' then
        match args with
        | [] => none
        | a :: args => (fill? cs args).map (a.toList ++ ·)
      else none
    else if c == '}' then
      if d == '}' then (fill? cs args).map ('}' :: ·) else none
    else (fill? (d :: cs) args).map (c :: ·)

/-- A character other than a brace stands for itself. -/
theorem fill?_cons_of_ne {c : Char} (hopen : c ≠ '{') (hclose : c ≠ '}')
    (cs : List Char) (args : List String) :
    fill? (c :: cs) args = (fill? cs args).map (c :: ·) := by
  cases cs <;> simp [fill?, hopen, hclose]

/-- A hole takes the first argument. -/
theorem fill?_hole (cs : List Char) (a : String) (args : List String) :
    fill? ('{' :: '}' :: cs) (a :: args)
      = (fill? cs args).map (a.toList ++ ·) := by
  simp [fill?]

/-- A text in a format string stands for itself, doubled braces and
all. -/
theorem fill?_formatChars (text cs : List Char) (args : List String) :
    fill? (formatChars text ++ cs) args = (fill? cs args).map (text ++ ·) := by
  induction text with
  | nil => simp [formatChars]
  | cons c text ih =>
    have htext : formatChars (c :: text) ++ cs
        = formatChar c ++ (formatChars text ++ cs) := by
      simp [formatChars]
    have hfirst : fill? (formatChar c ++ (formatChars text ++ cs)) args
        = (fill? (formatChars text ++ cs) args).map (c :: ·) := by
      by_cases hopen : c = '{'
      · subst hopen
        simp [formatChar, fill?]
      · by_cases hclose : c = '}'
        · subst hclose
          simp [formatChar, fill?]
        · simp [formatChar, hopen, hclose,
            fill?_cons_of_ne hopen hclose]
    rw [htext, hfirst, ih, Option.map_map]
    rfl

/-! ## Meaning -/

/-- The value of an operand. -/
def KeyOperand.value (args : Arguments) : KeyOperand → Json
  | .nothing => .array []
  | .one p => args.resolve p
  | .tuple ps => .array (ps.map args.resolve)

/-- The key functions that have names of their own. -/
def KeyFunction.all : List KeyFunction :=
  [.base64Json, .json, .sha256, .lower, .upper]

/-- The function of a callee: a plain segment or one of the key functions,
under the path of the runtime. -/
def keyFunction? (runtime callee : List Char) : Option (Json → String) :=
  if callee = keyCallee runtime "segment" then some Json.segment
  else
    (KeyFunction.all.find? fun f => keyCallee runtime f.name == callee).map
      KeyFunction.apply

/-- The text that a call denotes. -/
def KeyCall.meaning? (runtime : List Char) (args : Arguments)
    (c : KeyCall) : Option String :=
  (keyFunction? runtime c.callee).map fun f => f (c.operand.value args)

/-- The texts that calls denote. -/
def KeyCall.meanings? (runtime : List Char) (args : Arguments) :
    List KeyCall → Option (List String)
  | [] => some []
  | c :: cs =>
    (c.meaning? runtime args).bind fun text =>
      (meanings? runtime args cs).map (text :: ·)

namespace KeyExpression

/-- The text that an expression denotes. -/
def denote? (runtime : List Char) (args : Arguments) :
    KeyExpression → Option (List Char)
  | .text s => some s
  | .format pattern calls =>
    (KeyCall.meanings? runtime args calls).bind (fill? pattern)

/-- The text that the text of an expression denotes, with the key
functions under a path. -/
def meaning? (runtimePath : String) (args : Arguments)
    (expression : String) : Option String :=
  ((read? expression.toList).bind
    (denote? runtimePath.toList args)).map String.ofList

end KeyExpression

/-! ## Calls -/

/-- The operand of field paths has the value that a builtin is given. -/
theorem KeyOperand.value_ofPaths (args : Arguments)
    (ps : List FieldPath) :
    (KeyOperand.ofPaths ps).value args = args.operand ps := by
  match ps with
  | [] => rfl
  | [_] => rfl
  | _ :: _ :: _ => rfl

/-- Callees under one path differ when the names do. -/
theorem keyCallee_inj {runtime : List Char} {name other : String} :
    keyCallee runtime name = keyCallee runtime other ↔ name = other := by
  simp [keyCallee, String.toList_inj]

theorem KeyFunction.name_ne_segment (f : KeyFunction) :
    f.name ≠ "segment" := by
  cases f <;> decide

/-- The callee of a key function names that function. -/
theorem keyFunction?_keyCallee (runtime : List Char) (f : KeyFunction) :
    keyFunction? runtime (keyCallee runtime f.name)
      = some f.apply := by
  have hsegment : keyCallee runtime f.name ≠ keyCallee runtime "segment" :=
    fun h => f.name_ne_segment (keyCallee_inj.mp h)
  have hfind : (KeyFunction.all.find? fun g =>
      keyCallee runtime g.name == keyCallee runtime f.name) = some f := by
    have hname : ∀ g : KeyFunction,
        (keyCallee runtime g.name == keyCallee runtime f.name)
          = (g.name == f.name) := by
      intro g
      rw [Bool.eq_iff_iff, beq_iff_eq, beq_iff_eq]
      exact keyCallee_inj
    simp only [hname]
    cases f <;> decide
  simp only [keyFunction?, hsegment, if_false, hfind, Option.map_some]

/-- The call of a segment denotes the text of the segment. -/
theorem KeyCall.meaning?_of_keyCall? {runtime : List Char} {s : Segment}
    {c : KeyCall} (args : Arguments) (h : s.keyCall? runtime = some c) :
    c.meaning? runtime args = some (s.evaluate args) := by
  cases s with
  | literal t => cases h
  | field p =>
    obtain rfl : KeyCall.mk (keyCallee runtime "segment") (.one p) = c := by
      simpa [Segment.keyCall?] using h
    simp [KeyCall.meaning?, keyFunction?, KeyOperand.value,
      Segment.evaluate]
  | builtin name f ps =>
    obtain rfl : KeyCall.mk (keyCallee runtime f.name) (.ofPaths ps) = c := by
      simpa [Segment.keyCall?] using h
    simp [KeyCall.meaning?, keyFunction?_keyCallee,
      KeyOperand.value_ofPaths, Segment.evaluate]

/-! ## Segments -/

/-- The texts that fill the holes of segments. -/
def Segment.holeTexts (args : Arguments) : List Segment → List String
  | [] => []
  | .literal _ :: ss => holeTexts args ss
  | s :: ss => s.evaluate args :: holeTexts args ss

/-- The calls of segments denote the texts of their holes. -/
theorem KeyCall.meanings?_filterMap (runtime : List Char)
    (args : Arguments) (ss : List Segment) :
    KeyCall.meanings? runtime args
        (ss.filterMap (Segment.keyCall? runtime))
      = some (Segment.holeTexts args ss) := by
  induction ss with
  | nil => rfl
  | cons s ss ih =>
    cases hcall : s.keyCall? runtime with
    | none =>
      rw [List.filterMap_cons_none hcall, ih]
      cases s with
      | literal t => rfl
      | field p => cases hcall
      | builtin name f ps => cases hcall
    | some c =>
      rw [List.filterMap_cons_some hcall, KeyCall.meanings?,
        KeyCall.meaning?_of_keyCall? args hcall, ih]
      cases s with
      | literal t => cases hcall
      | field p => rfl
      | builtin name f ps => rfl

/-- The format string of segments, filled with the texts of its holes, is
the texts of the segments joined. -/
theorem fill?_formatPart (args : Arguments) (ss : List Segment) :
    fill? (ss.flatMap Segment.formatPart) (Segment.holeTexts args ss)
      = some (Segment.evaluateAll args ss).toList := by
  induction ss with
  | nil => rfl
  | cons s ss ih =>
    rw [List.flatMap_cons, Segment.evaluateAll, String.toList_append]
    cases s with
    | literal t =>
      rw [Segment.formatPart, fill?_formatChars, Segment.holeTexts, ih]
      rfl
    | field p =>
      rw [Segment.holeTexts, Segment.formatPart, List.cons_append,
        List.cons_append, List.nil_append, fill?_hole, ih]
      · rfl
      · simp
      · simp
    | builtin name f ps =>
      rw [Segment.holeTexts, Segment.formatPart, List.cons_append,
        List.cons_append, List.nil_append, fill?_hole, ih]
      · rfl
      · simp
      · simp

/-- A run of literals renders as their texts. -/
theorem Segment.flatMap_literalText (args : Arguments)
    {ss : List Segment} (h : ss.all Segment.isLiteral = true) :
    (ss.flatMap fun s => s.literalText.toList)
      = (Segment.evaluateAll args ss).toList := by
  induction ss with
  | nil => rfl
  | cons s ss ih =>
    simp only [List.all_cons, Bool.and_eq_true] at h
    rw [List.flatMap_cons, Segment.evaluateAll, String.toList_append,
      ih h.2]
    cases s with
    | literal t => rfl
    | field p => simp [Segment.isLiteral] at h
    | builtin name f ps => simp [Segment.isLiteral] at h

/-! ## Key templates -/

/-- The expression that a key template is meant to have denotes the
key. -/
theorem KeyExpression.denote?_keyExpression (runtime : List Char)
    (args : Arguments) (k : KeyTemplate) :
    KeyExpression.denote? runtime args (k.keyExpression runtime)
      = some (k.evaluate args).toList := by
  unfold KeyTemplate.keyExpression KeyTemplate.evaluate
  cases hliteral : k.isLiteral with
  | true =>
    rw [if_pos rfl, KeyExpression.denote?,
      Segment.flatMap_literalText args hliteral]
  | false =>
    rw [if_neg (by simp), KeyExpression.denote?,
      KeyCall.meanings?_filterMap, Option.bind_some, fill?_formatPart]

/-- The text of an expression denotes the key that evaluation gives, for
every key template of a plan, all settings without a fault and all
argument values. -/
theorem KeyTemplate.meaning?_expression {table : BuiltinTable}
    {c : Contract} {p : ContractPlan} {k : KeyTemplate} {config : Config}
    (hplan : c.plan table = .ok p) (hk : k ∈ p.keyTemplates)
    (hconfig : config.fault? = none) (args : Arguments) :
    KeyExpression.meaning? config.runtimePath args
        (k.expression config.runtimePath)
      = some (k.evaluate args) := by
  have hpath := Config.isPath_of_fault?_eq_none hconfig
  have htrim := Config.trimSeparators_of_isPath hpath
  have hnamed := ContractPlan.named_of_mem_keyTemplates hplan hk
  have hparen : ∀ c ∈ trimSeparators config.runtimePath.toList, c ≠ '(' := by
    rw [htrim]
    exact Config.ne_paren_of_mem_of_isPath hpath
  unfold KeyExpression.meaning?
  rw [KeyExpression.read?_expression hparen hnamed, htrim,
    Option.bind_some, KeyExpression.denote?_keyExpression,
    Option.map_some, String.ofList_toList]

/-- A contract whose package text holds braces, a quote and a line
feed. -/
def Sample.bracedContract : Contract where
  package := "a\x7b\x7d\"\n"
  name := "C"
  methods :=
    [{ name := "get"
       params :=
        [Sample.param "id" "u64" .value none,
          Sample.param "filter" "UserFilter" .value none]
       returns := Sample.returns "User"
       cache := none
       evict := some
        ⟨["\x7bPKG\x7d:\x7bid\x7d:\x7bjson(id, filter.name)\x7d"]⟩
       trace := none }]

/-- The key template of that contract. -/
def Sample.bracedKey : KeyTemplate where
  source := "\x7bPKG\x7d:\x7bid\x7d:\x7bjson(id, filter.name)\x7d"
  segments :=
    [.literal "a\x7b\x7d\"\n:", .field ⟨"id", []⟩, .literal ":",
      .builtin "json" .json [⟨"id", []⟩, ⟨"filter", ["name"]⟩]]

/-- Braces, quotes and a tuple survive both layers of escapes. -/
theorem KeyTemplate.meaning?_expression_braces :
    ∃ p, Sample.bracedContract.plan .standard = .ok p ∧
      Sample.bracedKey ∈ p.keyTemplates ∧
      Config.standard.fault? = none ∧
      KeyExpression.meaning? Config.standard.runtimePath
          [("id", .number (.whole 7)),
            ("filter", .object [("name", .string "x")])]
          (Sample.bracedKey.expression Config.standard.runtimePath)
        = some "a\x7b\x7d\"\n:7:[7,\"x\"]" := by
  let p : ContractPlan :=
    ⟨Sample.bracedContract, Sample.bracedContract.methods.map
      (Method.plan .standard Sample.bracedContract)⟩
  have hplan : Sample.bracedContract.plan .standard = .ok p :=
    Contract.plan_eq_ok_iff.mpr ⟨by decide +kernel, rfl⟩
  have hmem : Sample.bracedKey ∈ p.keyTemplates := by decide +kernel
  have hconfig : Config.standard.fault? = none := by decide +kernel
  refine ⟨p, hplan, hmem, hconfig, ?_⟩
  rw [KeyTemplate.meaning?_expression hplan hmem hconfig]
  decide +kernel

end PolicyWeave
