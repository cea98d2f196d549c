import PolicyWeave.Proofs.Contract.Violations
import PolicyWeave.Proofs.Template.Dependencies
import PolicyWeave.Proofs.Template.KeyNames
import PolicyWeave.Proofs.Text.Identifier
import PolicyWeave.Proofs.Text.SnakeCase
import PolicyWeave.Sample.Contracts
import PolicyWeave.Source.File

/-!
# Legal names

A generated file declares items, fields, methods, parameters and bindings,
and its keys read fields of the parameters.  Every such name is an
identifier.  Here it is asked whether it is a legal one, that is, none of
the words which the language of the file keeps for itself.

There are five groups.

* `Text.LegalName` is a legal name, and `Text.missedWords` the words that
  validation lets pass although they are reserved.
* The derived names, which end in a way that no reserved word does.
* `SourceFile.names` lists the names that a file writes, one function for
  each kind of data that a file is made of.  The receiver of a method is no
  name: it is the keyword that it looks like.  Types and paths are texts of
  the contract and the configuration.  `ContractPlan.spells_render` compares
  the list with the words of the text.
* `ContractPlan.HeadName` and `ContractPlan.MemberName` are the places that
  names come from.  One lemma for each kind of data finds its names there.
* `ContractPlan.names_legal_iff` says when all names of a file are legal.

Two kinds of names are not checked enough.  The name of a contract, a method
or a parameter may be one of the missed words.  A field that a template
reads may be any identifier.
-/

namespace PolicyWeave

/-! ## Reserved words -/

namespace Text

/-- The keywords of the language, those that are in use and those that are
kept for later. -/
def reservedWords : List String :=
  ["abstract", "as", "async", "await", "become", "box", "break", "const",
    "continue", "crate", "do", "dyn", "else", "enum", "extern", "false",
    "final", "fn", "for", "if", "impl", "in", "let", "loop", "macro",
    "match", "mod", "move", "mut", "override", "priv", "pub", "ref",
    "return", "self", "Self", "static", "struct", "super", "trait", "true",
    "try", "type", "typeof", "unsafe", "unsized", "use", "virtual", "where",
    "while", "yield"]

/-- The reserved words that `keywords` leaves out. -/
def missedWords : List String := ["abstract", "become"]

/-- Whether a word is a name: an identifier that stands for nothing
else. -/
structure LegalName (name : String) : Prop where
  identifier : isIdentifier name = true
  notReserved : name ∉ reservedWords
  notBlank : name ≠ "_"

/-- A name that passes validation is legal unless it is a missed word. -/
theorem legalName_iff {name : String} (h : ItemName name) :
    LegalName name ↔ name ∉ missedWords := by
  have hkeyword : name ∉ keywords := by
    simpa [isKeyword] using h.notKeyword
  constructor
  · intro hlegal hmissed
    have hall : ∀ word ∈ missedWords, word ∈ reservedWords := by decide
    exact hlegal.notReserved (hall name hmissed)
  · intro hmissed
    have hall : ∀ word ∈ reservedWords,
        word ∈ keywords ∨ word ∈ missedWords := by decide
    refine ⟨h.identifier, ?_, ?_⟩
    · intro hreserved
      exact (hall name hreserved).elim hkeyword hmissed
    · rintro rfl
      exact hkeyword (by decide)

end Text

/-! ## Derived names -/

namespace Names

/-- The endings of the names that are derived. -/
def endings : List String :=
  ["Cache", "Trace", "Delegator", "_CACHE", "_delegator", "_cache",
    "_trace"]

/-- An ending goes on with an identifier. -/
theorem isIdentRest_of_mem_endings :
    ∀ ending ∈ endings, ending.toList.all Text.isIdentRest = true := by
  decide +kernel

/-- No reserved word has one of the endings. -/
theorem not_suffix_of_mem_endings :
    ∀ ending ∈ endings, ∀ word ∈ "_" :: Text.reservedWords,
      ¬ ending.toList <:+ word.toList := by
  decide +kernel

/-- An identifier with one of the endings is legal. -/
theorem legalName_append {name ending : String}
    (hname : Text.isIdentifier name = true) (hending : ending ∈ endings) :
    Text.LegalName (name ++ ending) := by
  have hsuffix : ending.toList <:+ (name ++ ending).toList := by
    simp [String.toList_append]
  have hno := not_suffix_of_mem_endings ending hending
  refine ⟨?_, ?_, ?_⟩
  · exact Text.isIdentifier_append hname
      (List.all_eq_true.mp (isIdentRest_of_mem_endings ending hending))
  · intro hreserved
    exact hno _ (List.mem_cons_of_mem _ hreserved) hsuffix
  · intro hblank
    exact hno "_" List.mem_cons_self (hblank ▸ hsuffix)

variable {contract method name : String}

/-- The name of the settings of a method is legal. -/
theorem legalName_settings (hcontract : Text.isIdentifier contract = true)
    (hmethod : Text.isIdentifier method = true) :
    Text.LegalName (settings contract method) := by
  refine legalName_append ?_ (by decide)
  have hmethod := Text.isIdentifier_upperSnakeCase hmethod
  refine Text.isIdentifier_append
    (Text.isIdentifier_append
      (Text.isIdentifier_upperSnakeCase hcontract)
      (by simp [Text.isIdentRest])) ?_
  exact fun c hc => Text.isIdentRest_of_mem hmethod hc

/-- The names derived from the name of a contract alone. -/
def ofContract (contract : String) : List String :=
  [cacheDecorator contract, traceDecorator contract, delegator contract,
    delegatorFunction contract, cacheFactory contract, traceFactory contract]

theorem legalName_of_mem_ofContract
    (hcontract : Text.isIdentifier contract = true)
    (h : name ∈ ofContract contract) : Text.LegalName name := by
  have hsnake := Text.isIdentifier_snakeCase hcontract
  simp only [ofContract, List.mem_cons, List.not_mem_nil, or_false] at h
  rcases h with rfl | rfl | rfl | rfl | rfl | rfl
  · exact legalName_append hcontract (by decide)
  · exact legalName_append hcontract (by decide)
  · exact legalName_append hcontract (by decide)
  · exact legalName_append hsnake (by decide)
  · exact legalName_append hsnake (by decide)
  · exact legalName_append hsnake (by decide)

/-- The names that are the same in all files: bindings, fields, parameters
and methods of the generated types, and what is used of the runtime
support. -/
def fixed : List String :=
  [key, inner, evict, result, span, "inner", "layer", "base", "new",
    "method", "ttl", "jitter_percent", "refresh_threshold_percent", "clone",
    "to_owned", "evict_on_success", "get_or_populate",
    "get_or_populate_and_evict", "otel", "status_code"]

theorem legalName_of_mem_fixed (h : name ∈ fixed) : Text.LegalName name := by
  have hall : ∀ name ∈ fixed, Text.isIdentifier name = true
      ∧ name ∉ Text.reservedWords ∧ name ≠ "_" := by decide +kernel
  obtain ⟨hidentifier, hreserved, hblank⟩ := hall name h
  exact ⟨hidentifier, hreserved, hblank⟩

end Names

/-! ## Names that a file writes -/

/-- The names of a field path, as `FieldPath.text` writes them. -/
def FieldPath.names (p : FieldPath) : List String := p.param :: p.fields

/-- The names in the expression of a key. -/
def KeyTemplate.names (k : KeyTemplate) : List String :=
  k.paths.flatMap FieldPath.names

/-- The names in what a binding is bound to. -/
def BoundValue.names : BoundValue → List String
  | .key k => k.names
  | .keys ks => ks.flatMap KeyTemplate.names
  | .innerField => ["inner"]
  | .sharedCopy name => [name]
  | .ownedCopy name => [name, "to_owned"]
  | .clone name => [name, "clone"]
  | .forwardedCall method args => "inner" :: method :: args
  | .span _ attributes => attributes ++ ["otel", "status_code"]

/-- The names in a binding. -/
def Binding.names (b : Binding) : List String := b.name :: b.value.names

@[simp] theorem Binding.names_mk (name : String) (value : BoundValue) :
    names ⟨name, value⟩ = name :: value.names := rfl

/-- The names in a closing expression. -/
def Tail.names : Tail → List String
  | .forward method args => "inner" :: method :: args
  | .evictOnSuccess _ =>
    ["layer", "evict_on_success", Names.evict, Names.result]
  | .traced method args => Names.span :: "inner" :: method :: args
  | .populate settings evicting loader method args =>
    "layer" :: settings :: Names.key
      :: (if evicting then ["get_or_populate_and_evict", Names.evict]
          else ["get_or_populate"])
      ++ loader.flatMap Binding.names
      ++ Names.inner :: method :: args.map Argument.name

/-- The names in a body. -/
def Body.names (b : Body) : List String :=
  b.bindings.flatMap Binding.names ++ b.tail.names

/-- The names in the head of a method. -/
def Method.headNames (m : Method) : List String :=
  m.name :: m.params.map Param.name

/-- The names in a method. -/
def functionNames (f : Method × Body) : List String :=
  f.1.headNames ++ f.2.names

/-- The names in a settings constant. -/
def SettingsConstant.names (s : SettingsConstant) : List String :=
  [s.name, "method", "ttl", "jitter_percent", "refresh_threshold_percent"]

/-- The names in a decorator. -/
def Decorator.names (d : Decorator) : List String :=
  d.settings.flatMap SettingsConstant.names
    ++ d.contract :: d.name :: "inner" :: "new"
    :: (if d.layered then ["layer"] else [])
    ++ d.functions.flatMap functionNames

/-- The names in the stack items of a contract. -/
def DelegatorItems.names (d : DelegatorItems) : List String :=
  [d.contract, Names.delegator d.contract,
      Names.delegatorFunction d.contract, "base", "new"]
    ++ (if d.hasCache then
          [Names.cacheFactory d.contract, "layer", "inner",
            Names.cacheDecorator d.contract, "clone"]
        else [])
    ++ if d.hasTrace then
        [Names.traceFactory d.contract, "inner",
          Names.traceDecorator d.contract]
      else []

/-- The stack items have no other names than these. -/
theorem DelegatorItems.eq_or_mem_of_mem_names (d : DelegatorItems)
    {name : String} (h : name ∈ d.names) :
    name = d.contract ∨ name ∈ Names.ofContract d.contract
      ∨ name ∈ Names.fixed := by
  obtain ⟨contract, hasCache, hasTrace⟩ := d
  revert name
  cases hasCache <;> cases hasTrace <;>
    simp [names, Names.ofContract, Names.fixed]

/-- The names in a file. -/
def SourceFile.names (f : SourceFile) : List String :=
  (f.cache.map Decorator.names).getD []
    ++ (f.trace.map Decorator.names).getD []
    ++ (f.delegator.map DelegatorItems.names).getD []

/-- The names in the file of a plan are those of its sections. -/
theorem SourceFile.mem_names_ofPlan {config : Config} {p : ContractPlan}
    {name : String} :
    name ∈ (ofPlan config p).names ↔
      (p.needsCacheLayer = true ∧ name ∈ (cacheDecorator p).names)
        ∨ (p.needsTraceLayer = true ∧ name ∈ (traceDecorator p).names)
        ∨ (config.emitDelegator = true
            ∧ name ∈ (delegatorItems p).names) := by
  simp only [names, ofPlan, List.mem_append, or_assoc]
  refine or_congr ?_ (or_congr ?_ ?_)
  · split <;> simp_all
  · split <;> simp_all
  · split <;> simp_all

/-! ## Where names come from -/

namespace ContractPlan

/-- A name that a file has of the contract as a whole. -/
inductive HeadName (p : ContractPlan) : String → Prop where
  | fixed {name : String} (h : name ∈ Names.fixed) : HeadName p name
  | derived {name : String} (h : name ∈ Names.ofContract p.contract.name) :
      HeadName p name
  | settings {m : Method} (hm : m ∈ p.contract.methods) :
      HeadName p (Names.settings p.contract.name m.name)
  | contract : HeadName p p.contract.name

/-- A name that a file has of a member of the contract: a method, a
parameter, or a field that a key reads. -/
inductive MemberName (p : ContractPlan) : String → Prop where
  | method {m : Method} (hm : m ∈ p.contract.methods) : MemberName p m.name
  | param {m : Method} {q : Param} (hm : m ∈ p.contract.methods)
      (hq : q ∈ m.params) : MemberName p q.name
  | field {k : KeyTemplate} {path : FieldPath} {f : String}
      (hk : k ∈ p.keyTemplates) (hpath : path ∈ k.paths)
      (hf : f ∈ path.fields) : MemberName p f

/-- Whether a name comes from one of these places. -/
def Supplies (p : ContractPlan) (name : String) : Prop :=
  p.HeadName name ∨ p.MemberName name

/-- Whether all names of a list do. -/
def SuppliesAll (p : ContractPlan) (names : List String) : Prop :=
  ∀ name ∈ names, p.Supplies name

section

variable {p : ContractPlan}

@[simp] theorem suppliesAll_nil : p.SuppliesAll [] := by
  simp [SuppliesAll]

@[simp] theorem suppliesAll_cons {name : String} {names : List String} :
    p.SuppliesAll (name :: names)
      ↔ p.Supplies name ∧ p.SuppliesAll names := by
  simp [SuppliesAll]

@[simp] theorem suppliesAll_append {names names' : List String} :
    p.SuppliesAll (names ++ names')
      ↔ p.SuppliesAll names ∧ p.SuppliesAll names' := by
  simp only [SuppliesAll, List.forall_mem_append]

theorem suppliesAll_flatMap {α : Type} {f : α → List String} {as : List α} :
    p.SuppliesAll (as.flatMap f) ↔ ∀ a ∈ as, p.SuppliesAll (f a) := by
  simp only [SuppliesAll, List.forall_mem_flatMap]

theorem suppliesAll_map {α : Type} {f : α → String} {as : List α} :
    p.SuppliesAll (as.map f) ↔ ∀ a ∈ as, p.Supplies (f a) := by
  simp only [SuppliesAll, List.forall_mem_map]

end

section

variable {table : BuiltinTable} {c : Contract} {p : ContractPlan}
  {m : MethodPlan}

/-- A plan is one of a sound contract. -/
theorem sound_of_plan (hplan : c.plan table = .ok p) : p.contract.Sound := by
  have hvalid := Contract.violations_eq_nil_of_plan hplan
  obtain ⟨-, rfl⟩ := Contract.plan_eq_ok_iff.mp hplan
  exact c.isValid_iff_sound.mp (by simp [Contract.isValid, hvalid])

/-- A planned method is one of the contract. -/
theorem method_mem_of_plan (hplan : c.plan table = .ok p)
    (hm : m ∈ p.methods) : m.method ∈ p.contract.methods := by
  obtain ⟨n, hn, rfl⟩ := Contract.exists_of_mem_plan hplan hm
  obtain ⟨-, rfl⟩ := Contract.plan_eq_ok_iff.mp hplan
  exact hn

theorem supplies_of_mem_fixed {name : String} (h : name ∈ Names.fixed) :
    p.Supplies name :=
  .inl (.fixed h)

theorem supplies_contract : p.Supplies p.contract.name :=
  .inl .contract

/-! ### Names in methods -/

variable (hplan : c.plan table = .ok p) (hm : m ∈ p.methods)

include hplan hm

theorem supplies_method : p.Supplies m.method.name :=
  .inr (.method (method_mem_of_plan hplan hm))

theorem supplies_param {q : Param} (hq : q ∈ m.method.params) :
    p.Supplies q.name :=
  .inr (.param (method_mem_of_plan hplan hm) hq)

theorem supplies_settings :
    p.Supplies (Names.settings p.contract.name m.method.name) :=
  .inl (.settings (method_mem_of_plan hplan hm))

/-- A field path of a key starts with a parameter, and goes on with
fields. -/
theorem suppliesAll_keyNames {k : KeyTemplate} (hk : k ∈ m.keyTemplates) :
    p.SuppliesAll k.names := by
  have hscoped := scoped_of_mem_keyTemplates hplan hm hk
  refine suppliesAll_flatMap.mpr ?_
  intro path hpath
  refine suppliesAll_cons.mpr ⟨?_, ?_⟩
  · obtain ⟨q, hq, hname⟩ := hscoped.values path.param
      (KeyTemplate.mem_dependencies_iff.mpr ⟨path, hpath, rfl⟩)
    rw [← hname]
    exact supplies_param hplan hm (List.mem_of_mem_filter hq)
  · intro f hf
    have hk : k ∈ p.keyTemplates := List.mem_flatMap.mpr ⟨m, hm, hk⟩
    exact .inr (.field hk hpath hf)

/-- A recorded attribute is a parameter. -/
theorem suppliesAll_attributes {t : TracePlan} (ht : m.trace = some t) :
    p.SuppliesAll t.attributes := by
  intro a ha
  obtain ⟨n, -, rfl⟩ := Contract.exists_of_mem_plan hplan hm
  obtain ⟨policy, hpolicy, rfl⟩ : ∃ policy, n.trace = some policy
      ∧ ⟨policy.effectiveSpan c.name n.name, policy.attributes⟩ = t := by
    simpa [Method.plan] using ht
  have hsound := (sound_of_plan hplan).methods n
    (method_mem_of_plan hplan hm)
  obtain ⟨i, q, hq, rfl, -, -⟩ := hsound.attributes policy hpolicy a ha
  exact supplies_param hplan hm (List.mem_of_getElem? hq)

theorem suppliesAll_params :
    p.SuppliesAll (m.method.params.map Param.name) :=
  suppliesAll_map.mpr fun _ hq => supplies_param hplan hm hq

theorem suppliesAll_forwardBody :
    p.SuppliesAll (forwardBody m.method).names := by
  simp (disch := decide) [forwardBody, Body.names, Tail.names,
    supplies_method hplan hm, suppliesAll_params hplan hm,
    supplies_of_mem_fixed]

/-- The names in the binding of keys to evict. -/
theorem suppliesAll_evictBinding {ks : List KeyTemplate}
    (hks : m.evict = some ks) : p.SuppliesAll (evictBinding ks).names := by
  have hname : p.Supplies Names.evict := supplies_of_mem_fixed (by decide)
  refine suppliesAll_cons.mpr ⟨hname, suppliesAll_flatMap.mpr ?_⟩
  intro k hk
  exact suppliesAll_keyNames hplan hm
    (by simp [MethodPlan.keyTemplates, hks, hk])

/-- The names in the copies of parameters. -/
theorem suppliesAll_capturedParams : p.SuppliesAll
    ((capturedParams m.method).flatMap Binding.names) := by
  refine suppliesAll_flatMap.mpr ?_
  intro b hb
  obtain ⟨q, hq, rfl⟩ := List.mem_map.mp hb
  have hname := supplies_param hplan hm (List.mem_of_mem_filter hq)
  simp (disch := decide) [BoundValue.names, hname, supplies_of_mem_fixed]

/-- The names in the bindings of a loader. -/
theorem suppliesAll_loaderBindings : p.SuppliesAll
    ((loaderBindings m.method).flatMap Binding.names) := by
  refine suppliesAll_flatMap.mpr ?_
  intro b hb
  rcases List.mem_cons.mp hb with rfl | hb
  · simp (disch := decide) [BoundValue.names, supplies_of_mem_fixed]
  · obtain ⟨q, hq, rfl⟩ := List.mem_map.mp hb
    have hname := supplies_param hplan hm hq
    simp (disch := decide) [BoundValue.names, hname, supplies_of_mem_fixed]

/-- The names in the closing expression of a cached method. -/
theorem suppliesAll_populate (evicting : Bool) :
    p.SuppliesAll
      (Tail.populate (Names.settings p.contract.name m.method.name) evicting
        (loaderBindings m.method) m.method.name
        (loaderArguments m.method)).names := by
  have hargs : p.SuppliesAll
      ((loaderArguments m.method).map Argument.name) := by
    refine suppliesAll_map.mpr ?_
    intro a ha
    obtain ⟨q, hq, rfl⟩ := List.mem_map.mp ha
    exact supplies_param hplan hm hq
  have hloader := suppliesAll_loaderBindings hplan hm
  cases evicting <;>
    simp (disch := decide) [Tail.names, supplies_settings hplan hm,
      supplies_method hplan hm, hloader, hargs, supplies_of_mem_fixed]

/-- The names in a caching body. -/
theorem suppliesAll_cacheBody :
    p.SuppliesAll (cacheBody p.contract.name m).names := by
  cases hcache : m.cache with
  | some cache =>
    have hkey : p.SuppliesAll cache.key.names := suppliesAll_keyNames hplan hm
      (by simp [MethodPlan.keyTemplates, hcache])
    have hevict : p.SuppliesAll
        ((m.evict.map evictBinding).toList.flatMap Binding.names) := by
      cases hks : m.evict with
      | none => simp
      | some ks => simpa using suppliesAll_evictBinding hplan hm hks
    simp (disch := decide) [cacheBody, hcache, Body.names,
      BoundValue.names, hkey, hevict, suppliesAll_capturedParams hplan hm,
      suppliesAll_populate hplan hm, supplies_of_mem_fixed]
  | none =>
    cases hks : m.evict with
    | some ks =>
      simp (disch := decide) [cacheBody, hcache, hks, Body.names,
        suppliesAll_evictBinding hplan hm hks, BoundValue.names, Tail.names,
        supplies_method hplan hm, suppliesAll_params hplan hm,
        supplies_of_mem_fixed]
    | none =>
      simpa [cacheBody, hcache, hks] using suppliesAll_forwardBody hplan hm

/-- The names in a tracing body. -/
theorem suppliesAll_traceBody : p.SuppliesAll (traceBody m).names := by
  cases ht : m.trace with
  | some t =>
    simp (disch := decide) [traceBody, ht, Body.names, BoundValue.names,
      suppliesAll_attributes hplan hm ht, Tail.names,
      supplies_method hplan hm, suppliesAll_params hplan hm,
      supplies_of_mem_fixed]
  | none => simpa [traceBody, ht] using suppliesAll_forwardBody hplan hm

omit hm

/-- The names in the head of a method and in its body. -/
theorem suppliesAll_function {f : MethodPlan → Body}
    (hbody : ∀ m ∈ p.methods, p.SuppliesAll (f m).names) :
    p.SuppliesAll ((p.methods.map fun m => (m.method, f m)).flatMap
      functionNames) := by
  refine suppliesAll_flatMap.mpr ?_
  intro g hg
  obtain ⟨m, hm, rfl⟩ := List.mem_map.mp hg
  simp [functionNames, Method.headNames, supplies_method hplan hm,
    suppliesAll_params hplan hm, hbody m hm]

/-- The names in the caching decorator. -/
theorem suppliesAll_cacheDecorator :
    p.SuppliesAll (cacheDecorator p).names := by
  have hsettings : p.SuppliesAll
      ((cacheDecorator p).settings.flatMap SettingsConstant.names) := by
    refine suppliesAll_flatMap.mpr ?_
    intro s hs
    obtain ⟨m, hm, hs⟩ := List.mem_filterMap.mp hs
    obtain ⟨cache, -, rfl⟩ := Option.map_eq_some_iff.mp hs
    simp (disch := decide) [SettingsConstant.names,
      supplies_settings hplan hm, supplies_of_mem_fixed]
  have hname : p.Supplies (Names.cacheDecorator p.contract.name) :=
    .inl (.derived (by simp [Names.ofContract]))
  have hfunctions : p.SuppliesAll
      ((cacheDecorator p).functions.flatMap functionNames) :=
    suppliesAll_function hplan fun m hm => suppliesAll_cacheBody hplan hm
  refine suppliesAll_append.mpr
    ⟨suppliesAll_append.mpr ⟨hsettings, ?_⟩, hfunctions⟩
  simp (disch := decide) [cacheDecorator, hname, supplies_contract,
    supplies_of_mem_fixed]

/-- The names in the tracing decorator. -/
theorem suppliesAll_traceDecorator :
    p.SuppliesAll (traceDecorator p).names := by
  have hname : p.Supplies (Names.traceDecorator p.contract.name) :=
    .inl (.derived (by simp [Names.ofContract]))
  have hfunctions : p.SuppliesAll
      ((traceDecorator p).functions.flatMap functionNames) :=
    suppliesAll_function hplan fun m hm => suppliesAll_traceBody hplan hm
  refine suppliesAll_append.mpr ⟨?_, hfunctions⟩
  simp (disch := decide) [traceDecorator, hname, supplies_contract,
    supplies_of_mem_fixed]

end

/-- The stack items take their names from the contract as a whole. -/
theorem headName_of_mem_delegatorItems {p : ContractPlan} {name : String}
    (h : name ∈ (delegatorItems p).names) : p.HeadName name := by
  rcases (delegatorItems p).eq_or_mem_of_mem_names h with rfl | h | h
  · exact .contract
  · exact .derived h
  · exact .fixed h

/-! ## Legal files -/

/-- Whether a file has a decorator of the plan. -/
def Decorated (p : ContractPlan) : Prop :=
  p.needsCacheLayer = true ∨ p.needsTraceLayer = true

/-- Whether a file spares the reserved words: no item that it writes has a
missed word for a name, and no key reads a field with a reserved one. -/
structure Spares (config : Config) (p : ContractPlan) : Prop where
  contract : config.emitDelegator = true ∨ p.Decorated →
    p.contract.name ∉ Text.missedWords
  methods : p.Decorated → ∀ m ∈ p.contract.methods,
    m.name ∉ Text.missedWords
  params : p.Decorated → ∀ m ∈ p.contract.methods, ∀ q ∈ m.params,
    q.name ∉ Text.missedWords
  fields : ∀ k ∈ p.keyTemplates, ∀ path ∈ k.paths, ∀ f ∈ path.fields,
    f ∉ Text.reservedWords ∧ f ≠ "_"

section

variable {table : BuiltinTable} {c : Contract} {p : ContractPlan}
  {name : String}

/-- A name of the contract as a whole is legal but for the contract's
own. -/
theorem HeadName.legal_or_eq (hsound : p.contract.Sound)
    (h : p.HeadName name) :
    Text.LegalName name ∨ name = p.contract.name := by
  cases h with
  | fixed h => exact .inl (Names.legalName_of_mem_fixed h)
  | derived h =>
    exact .inl (Names.legalName_of_mem_ofContract hsound.name.identifier h)
  | settings hm =>
    exact .inl (Names.legalName_settings hsound.name.identifier
      (hsound.methods _ hm).name.identifier)
  | contract => exact .inr rfl

/-- Every supplied name is an identifier. -/
theorem Supplies.isIdentifier (hplan : c.plan table = .ok p)
    (h : p.Supplies name) : Text.isIdentifier name = true := by
  have hsound := sound_of_plan hplan
  rcases h with h | h
  · rcases h.legal_or_eq hsound with hlegal | rfl
    · exact hlegal.identifier
    · exact hsound.name.identifier
  · cases h with
    | method hm => exact (hsound.methods _ hm).name.identifier
    | param hm hq => exact ((hsound.methods _ hm).params _ hq).identifier
    | field hk hpath hf =>
      obtain ⟨s, hs, hpath⟩ := List.mem_flatMap.mp hpath
      have hnamed := named_of_mem_keyTemplates hplan hk s hs
      exact (Segment.named_iff.mp hnamed _ hpath).fields _ hf

/-- A name is legal where the reserved words are spared, if it comes from
the contract as a whole. -/
theorem HeadName.legal (hsound : p.contract.Sound) (h : p.HeadName name)
    (hcontract : p.contract.name ∉ Text.missedWords) :
    Text.LegalName name := by
  rcases h.legal_or_eq hsound with hlegal | rfl
  · exact hlegal
  · exact (Text.legalName_iff hsound.name).mpr hcontract

/-- In a file with decorators, every supplied name is legal where the
reserved words are spared. -/
theorem Spares.legal {config : Config} (hspares : p.Spares config)
    (hplan : c.plan table = .ok p) (hdecorated : p.Decorated)
    (h : p.Supplies name) : Text.LegalName name := by
  have hsound := sound_of_plan hplan
  have hidentifier := h.isIdentifier hplan
  rcases h with h | h
  · exact h.legal hsound (hspares.contract (.inr hdecorated))
  · cases h with
    | method hm =>
      exact (Text.legalName_iff (hsound.methods _ hm).name).mpr
        (hspares.methods hdecorated _ hm)
    | param hm hq =>
      exact (Text.legalName_iff ((hsound.methods _ hm).params _ hq)).mpr
        (hspares.params hdecorated _ hm _ hq)
    | field hk hpath hf =>
      obtain ⟨hreserved, hblank⟩ := hspares.fields _ hk _ hpath _ hf
      exact ⟨hidentifier, hreserved, hblank⟩

/-! ### Names that are there -/

/-- Each section has the name of the contract. -/
theorem contract_mem_names {config : Config}
    (h : config.emitDelegator = true ∨ p.Decorated) :
    p.contract.name ∈ (SourceFile.ofPlan config p).names := by
  rw [SourceFile.mem_names_ofPlan]
  rcases h with hemit | hcache | htrace
  · exact .inr (.inr ⟨hemit, by simp [DelegatorItems.names, delegatorItems]⟩)
  · exact .inl ⟨hcache, by simp [Decorator.names, cacheDecorator]⟩
  · exact .inr (.inl ⟨htrace, by simp [Decorator.names, traceDecorator]⟩)

/-- A decorator has the names in the heads of its methods. -/
theorem headNames_subset_decorator {d : Decorator} {m : Method}
    (hm : m ∈ d.functions.map Prod.fst) (h : name ∈ m.headNames) :
    name ∈ d.names := by
  obtain ⟨f, hf, rfl⟩ := List.mem_map.mp hm
  exact List.mem_append_right _
    (List.mem_flatMap.mpr ⟨f, hf, List.mem_append_left _ h⟩)

/-- A file with a decorator has the names in the heads of all methods. -/
theorem headNames_subset_names {config : Config}
    (hplan : c.plan table = .ok p) (hdecorated : p.Decorated) {m : Method}
    (hm : m ∈ p.contract.methods) (h : name ∈ m.headNames) :
    name ∈ (SourceFile.ofPlan config p).names := by
  have hmethod : m ∈ p.methods.map MethodPlan.method := by
    obtain ⟨-, rfl⟩ := Contract.plan_eq_ok_iff.mp hplan
    exact List.mem_map.mpr ⟨m.plan table c, List.mem_map_of_mem hm, rfl⟩
  rw [SourceFile.mem_names_ofPlan]
  rcases hdecorated with hcache | htrace
  · refine .inl ⟨hcache, headNames_subset_decorator ?_ h⟩
    simpa [cacheDecorator] using hmethod
  · refine .inr (.inl ⟨htrace, headNames_subset_decorator ?_ h⟩)
    simpa [traceDecorator] using hmethod

/-- A caching body has the names of all keys of its method. -/
theorem keyNames_subset_cacheBody {m : MethodPlan} {contract : String}
    {k : KeyTemplate} (hk : k ∈ m.keyTemplates) (h : name ∈ k.names) :
    name ∈ (cacheBody contract m).names := by
  rcases List.mem_append.mp hk with hk | hk
  · obtain ⟨cache, hcache, rfl⟩ : ∃ cache, m.cache = some cache
        ∧ cache.key = k := by
      simpa using hk
    simp [cacheBody, hcache, Body.names, BoundValue.names, h]
  · obtain ⟨ks, hevict, hk⟩ : ∃ ks, m.evict = some ks ∧ k ∈ ks := by
      cases hevict : m.evict <;> simp_all
    have hnames : name ∈ (evictBinding ks).names :=
      List.mem_cons_of_mem _ (List.mem_flatMap.mpr ⟨k, hk, h⟩)
    cases hcache : m.cache <;>
      simp [cacheBody, hcache, hevict, Body.names, hnames]

/-- The caching decorator is there if there is any key, and has the names of
all keys. -/
theorem keyNames_subset_names {config : Config} {k : KeyTemplate}
    (hk : k ∈ p.keyTemplates) (h : name ∈ k.names) :
    name ∈ (SourceFile.ofPlan config p).names := by
  obtain ⟨m, hm, hk⟩ := List.mem_flatMap.mp hk
  have hcache : p.needsCacheLayer = true := by
    refine List.any_eq_true.mpr ⟨m, hm, ?_⟩
    cases hcache : m.cache <;> cases hevict : m.evict <;>
      simp_all [MethodPlan.keyTemplates]
  rw [SourceFile.mem_names_ofPlan]
  refine .inl ⟨hcache, List.mem_append_right _ (List.mem_flatMap.mpr ?_)⟩
  refine ⟨(m.method, cacheBody p.contract.name m), ?_, ?_⟩
  · exact List.mem_map.mpr ⟨m, hm, rfl⟩
  · exact List.mem_append_right _ (keyNames_subset_cacheBody hk h)

/-! ### The whole file -/

/-- Every name in the file of a plan is supplied. -/
theorem supplies_of_mem_names {config : Config}
    (hplan : c.plan table = .ok p)
    (h : name ∈ (SourceFile.ofPlan config p).names) : p.Supplies name := by
  rcases SourceFile.mem_names_ofPlan.mp h with ⟨-, h⟩ | ⟨-, h⟩ | ⟨-, h⟩
  · exact suppliesAll_cacheDecorator hplan name h
  · exact suppliesAll_traceDecorator hplan name h
  · exact .inl (headName_of_mem_delegatorItems h)

/-- Where the reserved words are spared, all names in a file are legal. -/
theorem Spares.legal_of_mem_names {config : Config}
    (hspares : p.Spares config) (hplan : c.plan table = .ok p)
    (h : name ∈ (SourceFile.ofPlan config p).names) :
    Text.LegalName name := by
  have hsupplied := supplies_of_mem_names hplan h
  rcases SourceFile.mem_names_ofPlan.mp h with ⟨hcache, -⟩ | ⟨htrace, -⟩ |
      ⟨hemit, h⟩
  · exact hspares.legal hplan (.inl hcache) hsupplied
  · exact hspares.legal hplan (.inr htrace) hsupplied
  · -- without decorators, only the names of the contract as a whole are there
    exact (headName_of_mem_delegatorItems h).legal (sound_of_plan hplan)
      (hspares.contract (.inl hemit))

/-- A file whose names are all legal spares the reserved words. -/
theorem Spares.of_legal {config : Config} (hplan : c.plan table = .ok p)
    (hlegal : ∀ name ∈ (SourceFile.ofPlan config p).names,
      Text.LegalName name) : p.Spares config := by
  have hsound := sound_of_plan hplan
  refine ⟨?_, ?_, ?_, ?_⟩
  · intro h
    exact (Text.legalName_iff hsound.name).mp
      (hlegal _ (contract_mem_names h))
  · intro hdecorated m hm
    have hmem : m.name ∈ m.headNames := List.mem_cons_self
    exact (Text.legalName_iff (hsound.methods m hm).name).mp
      (hlegal _ (headNames_subset_names hplan hdecorated hm hmem))
  · intro hdecorated m hm q hq
    have hmem : q.name ∈ m.headNames :=
      List.mem_cons_of_mem _ (List.mem_map_of_mem hq)
    exact (Text.legalName_iff ((hsound.methods m hm).params q hq)).mp
      (hlegal _ (headNames_subset_names hplan hdecorated hm hmem))
  · intro k hk path hpath f hf
    have hmem : f ∈ k.names :=
      List.mem_flatMap.mpr ⟨path, hpath, List.mem_cons_of_mem _ hf⟩
    have hname := hlegal f (keyNames_subset_names hk hmem)
    exact ⟨hname.notReserved, hname.notBlank⟩

end

/-- The names in the file of a plan.  All of them are identifiers.  They are
all legal exactly if the file spares the reserved words. -/
theorem names_legal_iff {table : BuiltinTable} {c : Contract}
    {p : ContractPlan} (hplan : c.plan table = .ok p) (config : Config) :
    (∀ name ∈ (SourceFile.ofPlan config p).names,
        Text.isIdentifier name = true)
      ∧ ((∀ name ∈ (SourceFile.ofPlan config p).names, Text.LegalName name)
          ↔ p.Spares config) := by
  refine ⟨?_, ?_, ?_⟩
  · intro name hname
    exact (supplies_of_mem_names hplan hname).isIdentifier hplan
  · exact Spares.of_legal hplan
  · intro hspares name hname
    exact hspares.legal_of_mem_names hplan hname

/-- All names in the file of the user service are legal. -/
theorem legal_names_userService :
    ∃ p, Sample.userService.plan .standard = .ok p ∧
      ∀ name ∈ (SourceFile.ofPlan .standard p).names,
        Text.LegalName name := by
  have hplan := Contract.plan_of_planErrors_eq_nil
    (by decide +kernel : Sample.userService.planErrors .standard = [])
  refine ⟨_, hplan, (names_legal_iff hplan .standard).2.mpr ⟨?_, ?_, ?_, ?_⟩⟩
  · exact fun _ => by decide +kernel
  · exact fun _ => by decide +kernel
  · exact fun _ => by decide +kernel
  · decide +kernel

end ContractPlan

/-- A cached look-up with reserved words for its name and for the field in its
key. -/
def Sample.abstract : Method where
  name := "abstract"
  params := [param "paper" "&Paper" .value none]
  returns := returns "String"
  cache := some
    ⟨Duration.ofMilliseconds 60000, "", "\x7bpaper.type\x7d", percent 0,
      percent 0⟩
  evict := none
  trace := none

/-- The contract of that look-up. -/
def Sample.archive : Contract := ⟨"app::papers", "Archive", [abstract]⟩

/-- The contract has a plan, and its file has a method and a field with
reserved words for names. -/
theorem ContractPlan.exists_illegal_names :
    ∃ p, Sample.archive.plan .standard = .ok p ∧
      Config.standard.fault? = none ∧
      Sample.abstract.signature
        = "async fn abstract(&self, paper: &Paper) -> "
            ++ "Result<String, UserError>" ∧
      (p.keyTemplates.map fun k =>
          k.expression Config.standard.runtimePath)
        = ["format!(\"\x7b\x7d\", "
            ++ "::lacquer_runtime::keys::segment(&paper.type))"] ∧
      ∀ word ∈ ["abstract", "type"],
        word ∈ (SourceFile.ofPlan .standard p).names
          ∧ ¬ Text.LegalName word := by
  have hplan := Contract.plan_of_planErrors_eq_nil
    (by decide +kernel : Sample.archive.planErrors .standard = [])
  refine ⟨_, hplan, by decide +kernel, by decide +kernel, by decide +kernel,
    ?_⟩
  have hnames : ∀ word ∈ ["abstract", "type"],
      word ∈ (SourceFile.ofPlan .standard ⟨Sample.archive,
          Sample.archive.methods.map
            (Method.plan .standard Sample.archive)⟩).names
        ∧ word ∈ Text.reservedWords := by
    decide +kernel
  intro word hword
  obtain ⟨hmem, hreserved⟩ := hnames word hword
  exact ⟨hmem, fun hlegal => hlegal.notReserved hreserved⟩

end PolicyWeave
