import Mathlib.Data.List.Nodup
import PolicyWeave.Proofs.Json.Exact
import PolicyWeave.Proofs.Plan
import PolicyWeave.Proofs.Template.Canonical
import PolicyWeave.Proofs.Template.Resolution
import PolicyWeave.Proofs.Text.Identifier
import PolicyWeave.Sample.Contracts

/-!
# Default keys do not collide

A cache policy without a key of its own has a default one: the method
and all its value parameters, behind the lead of the policy.

* `KeyTemplate.exists_compile_default`: the default template compiles for
  every method and every lead without braces, and its key is the lead,
  the name of the method, a colon and the arguments in base64.
* `Json.operandOf_inj`: the one value that stands for several tells them
  apart, if their number is known.
* `ContractPlan.default_keys_inj`: within a plan, two such keys are equal
  only for one method and equal arguments.
-/

namespace PolicyWeave

/-! ## The default template -/

namespace Template

/-- The default key template, as parsed. -/
def defaultParts : List Part :=
  [.placeholder ⟨.path ⟨"METHOD", [], ⟨0, 0⟩⟩, ⟨0, 0⟩⟩, .text ":",
    .placeholder ⟨.call ⟨"base64_json", [], ⟨0, 0⟩⟩, ⟨0, 0⟩⟩]

/-- The literal text of a lead, if there is any. -/
def leadParts (lead : String) : List Part :=
  if lead = "" then [] else [.text lead]

/-- The default key template behind a lead. -/
def ofLead (lead : String) : Template :=
  ⟨leadParts lead ++ defaultParts⟩

theorem mem_leadParts {lead : String} {p : Part} :
    p ∈ leadParts lead ↔ lead ≠ "" ∧ p = .text lead := by
  unfold leadParts
  split <;> simp_all

theorem flatMap_chars_leadParts (lead : String) :
    (leadParts lead).flatMap Part.chars = lead.toList := by
  unfold leadParts
  split
  · next h =>
    rw [h]
    rfl
  · rw [List.flatMap_cons, List.flatMap_nil, List.append_nil, Part.chars]

theorem text_ofLead (lead : String) :
    (ofLead lead).text = lead ++ defaultKeyTemplate := by
  have hdefault :
      defaultParts.flatMap Part.chars = defaultKeyTemplate.toList := by
    decide +kernel
  rw [← String.toList_inj, String.toList_append, ← hdefault, text,
    String.toList_ofList, chars, ofLead, List.flatMap_append,
    flatMap_chars_leadParts]

/-- Behind a lead without braces the template is well formed. -/
theorem wellFormed_ofLead {lead : String}
    (hplain : ∀ ch ∈ lead.toList, ch ≠ '{' ∧ ch ≠ '}') :
    (ofLead lead).WellFormed := by
  constructor
  · have hdefault : Part.ListMaximal defaultParts :=
      ((Part.listMaximal_nil.placeholder _).text (by decide)
        (by simp [Part.IsText])).placeholder _
    show Part.ListMaximal (leadParts lead ++ defaultParts)
    unfold leadParts
    split
    · exact hdefault
    · next h => exact hdefault.text h (by simp [defaultParts, Part.IsText])
  · intro s hs
    rcases List.mem_append.mp hs with hlead | hdefault
    · obtain ⟨-, heq⟩ := mem_leadParts.mp hlead
      rw [Part.text.inj heq]
      exact hplain
    · obtain rfl : s = ":" := by simpa [defaultParts] using hdefault
      simp
  · intro q hq
    rcases List.mem_append.mp hq with hlead | hdefault
    · obtain ⟨-, rfl⟩ := mem_leadParts.mp hlead
      exact trivial
    · simp only [defaultParts, List.mem_cons, List.not_mem_nil,
        or_false] at hdefault
      rcases hdefault with rfl | rfl | rfl
      · exact ⟨by decide, by simp⟩
      · exact trivial
      · exact ⟨by decide, by simp⟩

/-- The canonical text of a well-formed template compiles to the segments
of its parts. -/
theorem WellFormed.segments_compile_text {t : Template}
    (h : t.WellFormed) (table : BuiltinTable) (c : Contract)
    (m : Method) :
    (KeyTemplate.compile table c m t.text).toOption.map
        KeyTemplate.segments
      = (Part.resolveAll table c m t.parts).toOption.map
          Segment.merge := by
  obtain ⟨u, hu, herase⟩ := h.exists_parse_text
  have hparts : u.parts.map Part.erase = t.parts.map Part.erase :=
    congrArg parts herase
  rw [← Part.toOption_resolveAll_erase, ← hparts,
    Part.toOption_resolveAll_erase, KeyTemplate.compile, hu]
  dsimp only
  rw [KeyTemplate.ofTemplate]
  cases Part.resolveAll table c m u.parts with
  | error e => rfl
  | ok ss => rfl

end Template

/-! ## The default key -/

/-- The default key of a method: the lead, the name of the method, a colon
and the values of all value parameters in base64.  A value that is missing
counts as null. -/
def Method.defaultKey (m : Method) (lead : String) (args : Arguments) :
    String :=
  lead ++ (m.name ++ (":" ++ KeyFunction.base64Json.apply
    (Json.operandOf
      (m.valueParams.map fun q => (args.lookup q.name).getD .null))))

namespace KeyTemplate

/-- The segments of a lead, if there is any. -/
def leadSegments (lead : String) : List Segment :=
  if lead = "" then [] else [.literal lead]

theorem evaluateAll_leadSegments (args : Arguments) (lead : String)
    (ss : List Segment) :
    Segment.evaluateAll args (leadSegments lead ++ ss)
      = lead ++ Segment.evaluateAll args ss := by
  unfold leadSegments
  split
  · next h => rw [h, List.nil_append, String.empty_append]
  · rfl

/-- The default template has a segment for the method, one for the colon
and one for all value parameters. -/
theorem resolveAll_ofLead (c : Contract) (m : Method) (lead : String) :
    Part.resolveAll .standard c m (Template.ofLead lead).parts
      = .ok (leadSegments lead ++ [.literal m.name, .literal ":",
          .builtin "base64_json" .base64Json
            (m.valueParams.map fun q => ⟨q.name, []⟩)]) := by
  have hbuiltin : BuiltinTable.standard.get? "base64_json"
      = some ⟨.variadic, .base64Json⟩ := by decide +kernel
  have hcall := Call.resolve_of_everything (m := m)
    (c := ⟨"base64_json", [], ⟨0, 0⟩⟩) hbuiltin rfl rfl
  have hmethod : ReservedName.ofText? "METHOD" = some .method := by
    decide
  have hdefault : Part.resolveAll .standard c m Template.defaultParts
      = .ok [.literal m.name, .literal ":",
          .builtin "base64_json" .base64Json
            (m.valueParams.map fun q => ⟨q.name, []⟩)] := by
    simp only [Template.defaultParts, Part.resolveAll, Part.resolve,
      Path.resolveBare, hmethod, List.head?_nil, hcall]
    rfl
  show Part.resolveAll .standard c m
    (Template.leadParts lead ++ Template.defaultParts) = _
  unfold Template.leadParts leadSegments
  split
  · exact hdefault
  · simp only [List.cons_append, List.nil_append, Part.resolveAll,
      Part.resolve, hdefault]

/-- The default template behind a lead without braces compiles for every
method, and gives the default key. -/
theorem exists_compile_default (c : Contract) (m : Method) {lead : String}
    (hplain : ∀ ch ∈ lead.toList, ch ≠ '{' ∧ ch ≠ '}') :
    ∃ k, compile .standard c m (lead ++ defaultKeyTemplate) = .ok k ∧
      ∀ args : Arguments, k.evaluate args
        = m.defaultKey lead args := by
  have hsegments := (Template.wellFormed_ofLead hplain).segments_compile_text
    .standard c m
  rw [Template.text_ofLead, resolveAll_ofLead] at hsegments
  cases hk : compile .standard c m (lead ++ defaultKeyTemplate) with
  | error e =>
    rw [hk] at hsegments
    cases hsegments
  | ok k =>
    rw [hk] at hsegments
    have hmerge := Option.some.inj hsegments
    refine ⟨k, rfl, ?_⟩
    intro args
    have hall := congrFun (Segment.evaluate_builtin_params "base64_json"
      .base64Json m.valueParams) args
    rw [evaluate, hmerge, Segment.evaluateAll_merge,
      evaluateAll_leadSegments, Method.defaultKey, ← hall]
    simp only [Segment.evaluateAll, Segment.evaluate, String.append_empty]

end KeyTemplate

/-! ## Operands -/

namespace Json

/-- The one value that stands for several is known to be theirs, if
their number is known. -/
theorem operandOf_inj {vs ws : List Json} (hlength : vs.length = ws.length)
    (h : operandOf vs = operandOf ws) : vs = ws := by
  match vs, ws, hlength with
  | [], [], _ => rfl
  | [v], [w], _ => exact congrArg (fun x => [x]) h
  | v :: v' :: vs, w :: w' :: ws, _ => exact Json.array.inj h

/-- One value for several that have no floating-point numbers has none
either. -/
theorem exact_operandOf {vs : List Json} (h : ∀ v ∈ vs, v.Exact) :
    (operandOf vs).Exact := by
  match vs, h with
  | [], _ => exact .array (by simp)
  | [v], h => exact h v (by simp)
  | v :: v' :: vs, h => exact .array h

end Json

/-- Arguments without floating-point numbers give none to any
parameter. -/
theorem Arguments.exact_lookup {args : Arguments}
    (h : ∀ a ∈ args, a.2.Exact) (name : String) :
    ((args.lookup name).getD .null).Exact := by
  induction args with
  | nil => exact .null
  | cons a args ih =>
    obtain ⟨ha, hargs⟩ := List.forall_mem_cons.mp h
    rw [List.lookup_cons]
    split
    · exact ha
    · exact ih hargs

/-! ## Plans -/

namespace Method

/-- The cache of a planned method that leaves its key empty, behind a lead
without braces, has the default key. -/
theorem exists_default_key (c : Contract) (m : Method) {q : CachePolicy}
    (hcache : m.cache = some q) (hkey : q.key = "")
    (hplain : ∀ ch ∈ q.lead.toList, ch ≠ '{' ∧ ch ≠ '}') :
    ∃ k, (m.plan .standard c).cache.map CachePlan.key = some k ∧
      ∀ args : Arguments, k.evaluate args
        = m.defaultKey q.lead args := by
  obtain ⟨k, hk, htext⟩ := KeyTemplate.exists_compile_default c m hplain
  have htemplate : q.effectiveTemplate = q.lead ++ defaultKeyTemplate := by
    simp [CachePolicy.effectiveTemplate, hkey]
  refine ⟨k, ?_, htext⟩
  simp [plan, hcache, compiled?, htemplate, hk, Except.toOption]

end Method

/-- A name in front of a colon is known from the text behind a lead. -/
theorem name_and_rest_of_append_eq {lead m n a b : String}
    (hm : Text.isItemName m = true) (hn : Text.isItemName n = true)
    (h : lead ++ (m ++ (":" ++ a)) = lead ++ (n ++ (":" ++ b))) :
    m = n ∧ a = b := by
  have hchars : m.toList ++ ':' :: a.toList = n.toList ++ ':' :: b.toList := by
    simpa using congrArg String.toList (String.append_right_inj lead |>.mp h)
  have hrest (s : String) (hs : Text.isItemName s = true) :
      ∀ c ∈ s.toList, Text.isIdentRest c = true := by
    intro c hc
    have hident : Text.isIdentifierChars s.toList = true := by
      simp only [Text.isItemName, Bool.and_eq_true] at hs
      exact hs.1
    exact Text.isIdentRest_of_mem hident hc
  obtain ⟨hname, htail⟩ := Text.run_append_inj (hrest m hm) (hrest n hn)
    (by simp; decide) (by simp; decide) hchars
  exact ⟨String.toList_inj.mp hname,
    String.toList_inj.mp (List.cons.inj htail).2⟩

namespace ContractPlan

/-- Default keys do not collide.  Two cached methods of a plan that leave
their keys empty behind one lead without braces have a key each, and for
arguments without floating-point numbers these keys are equal exactly if
the methods are one method and all its value parameters have equal
values, where one that is missing counts as null. -/
theorem default_keys_inj {c : Contract} {p : ContractPlan}
    (hplan : c.plan .standard = .ok p) {m n : MethodPlan}
    (hm : m ∈ p.methods) (hn : n ∈ p.methods) {q r : CachePolicy}
    (hq : m.method.cache = some q) (hr : n.method.cache = some r)
    (hqkey : q.key = "") (hrkey : r.key = "") (hlead : q.lead = r.lead)
    (hplain : ∀ ch ∈ q.lead.toList, ch ≠ '{' ∧ ch ≠ '}')
    {A B : Arguments} (hA : ∀ a ∈ A, a.2.Exact)
    (hB : ∀ b ∈ B, b.2.Exact) :
    ∃ j k, m.cache.map CachePlan.key = some j
      ∧ n.cache.map CachePlan.key = some k
      ∧ (j.evaluate A = k.evaluate B ↔
          m = n ∧ ∀ x ∈ m.method.valueParams,
            (A.lookup x.name).getD .null
              = (B.lookup x.name).getD .null) := by
  obtain ⟨-, rfl⟩ := Contract.plan_eq_ok_iff.mp hplan
  obtain ⟨m, hmem, rfl⟩ := List.mem_map.mp hm
  obtain ⟨n, hnem, rfl⟩ := List.mem_map.mp hn
  obtain ⟨j, hj, hjtext⟩ := m.exists_default_key c hq hqkey hplain
  obtain ⟨k, hk, hktext⟩ := n.exists_default_key c hr hrkey (hlead ▸ hplain)
  refine ⟨j, k, hj, hk, ?_⟩
  rw [hjtext, hktext, ← hlead, Method.defaultKey, Method.defaultKey]
  constructor
  · intro heq
    obtain ⟨hname, hbase⟩ := name_and_rest_of_append_eq
      (Contract.isItemName_of_mem_methods hplan hmem)
      (Contract.isItemName_of_mem_methods hplan hnem) heq
    -- names are different in a plan, so one name is one method
    obtain rfl : m = n := List.inj_on_of_nodup_map
      (Contract.nodup_method_names hplan) hmem hnem hname
    refine ⟨rfl, ?_⟩
    have hexact (C : Arguments) (hC : ∀ a ∈ C, a.2.Exact) :
        (Json.operandOf (m.valueParams.map fun x =>
          (C.lookup x.name).getD .null)).Exact := by
      refine Json.exact_operandOf ?_
      intro v hv
      obtain ⟨x, -, rfl⟩ := List.mem_map.mp hv
      exact Arguments.exact_lookup hC x.name
    have hoperand :=
      (KeyFunction.base64Json_inj (hexact A hA) (hexact B hB)).mp hbase
    exact List.map_inj_left.mp
      (Json.operandOf_inj (by simp) hoperand)
  · rintro ⟨heq, hvalues⟩
    obtain rfl : m = n := congrArg MethodPlan.method heq
    have hargs : ∀ x ∈ m.valueParams, (A.lookup x.name).getD .null
        = (B.lookup x.name).getD .null := hvalues
    rw [List.map_inj_left.mpr hargs]

end ContractPlan

/-- A contract with two methods cached under default keys behind one
lead. -/
def Sample.directory : Contract :=
  ⟨"app::users", "Directory",
    [listUsers, { listUsers with name := "count_users" }]⟩

/-- Its two methods have different keys for the same arguments, and each
has different keys for different arguments. -/
theorem ContractPlan.default_keys_directory :
    ∃ p, Sample.directory.plan .standard = .ok p ∧
      ∃ m ∈ p.methods, ∃ n ∈ p.methods, ∃ j k,
        m.cache.map CachePlan.key = some j
          ∧ n.cache.map CachePlan.key = some k
          ∧ j.evaluate [("filter", .string "x")]
            ≠ k.evaluate [("filter", .string "x")]
          ∧ j.evaluate [("filter", .string "x")]
            ≠ j.evaluate [("filter", .null)] := by
  let p : ContractPlan :=
    ⟨Sample.directory, Sample.directory.methods.map
      (Method.plan .standard Sample.directory)⟩
  let m := Sample.listUsers.plan .standard Sample.directory
  let n := Method.plan .standard Sample.directory
    { Sample.listUsers with name := "count_users" }
  have hplan : Sample.directory.plan .standard = .ok p :=
    Contract.plan_eq_ok_iff.mpr ⟨by decide +kernel, rfl⟩
  have hm : m ∈ p.methods := List.mem_cons_self
  have hn : n ∈ p.methods := List.mem_cons_of_mem _ List.mem_cons_self
  have hplain : ∀ ch ∈ "users:list:".toList, ch ≠ '{' ∧ ch ≠ '}' := by
    simp
  have htext : ∀ a ∈ [("filter", Json.string "x")], a.2.Exact := by
    simpa using Json.Exact.string "x"
  have hnull : ∀ a ∈ [("filter", Json.null)], a.2.Exact := by
    simpa using Json.Exact.null
  obtain ⟨j, k, hj, hk, hmethods⟩ := default_keys_inj hplan hm hn rfl rfl
    rfl rfl rfl hplain htext htext
  obtain ⟨j', j'', hj', hj'', hvalues⟩ := default_keys_inj hplan hm hm rfl
    rfl rfl rfl rfl hplain htext hnull
  obtain rfl : j' = j := Option.some.inj (hj'.symm.trans hj)
  obtain rfl : j'' = j' := Option.some.inj (hj''.symm.trans hj)
  refine ⟨p, hplan, m, hm, n, hn, j'', k, hj, hk, ?_, ?_⟩
  · intro heq
    have hnames := congrArg (fun x => x.method.name) (hmethods.mp heq).1
    exact absurd hnames (by decide)
  · intro heq
    have hvalue := (hvalues.mp heq).2
      (Sample.param "filter" "UserFilter" .value (some ["name", "active"]))
      (by decide +kernel)
    cases hvalue

end PolicyWeave
