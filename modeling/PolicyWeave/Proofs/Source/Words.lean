import PolicyWeave.Proofs.Source.Items
import PolicyWeave.Proofs.Source.Spelling

/-!
# Words of a file

The names that are listed for a file stand in its text, and what else stands
there is known.

* `SourceFile.texts` lists the texts that a file writes as they are.
* One lemma for each kind of data compares the words of its code with the
  names that are listed for it: methods, decorators, decorator stacks.
* `SourceFile.spells_declarations` does so for the declarations of a file, and
  `ContractPlan.spells_render` for the text of the file of a plan.
* `ContractPlan.Spares.legal_of_mem_words`: where the reserved words are
  spared, all words of the declarations are legal but those of the language and
  of texts.
-/

namespace PolicyWeave

/-! ## Texts that are written as they are -/

/-- The texts in the head of a method. -/
def Method.headTexts (m : Method) : List String :=
  m.params.map Param.type ++ [m.returns.value, m.returns.error]

/-- The texts in a method. -/
def functionTexts (runtime : String) (f : Method × Body) : List String :=
  f.1.headTexts ++ f.2.texts runtime

/-- The texts in a settings constant. -/
def SettingsConstant.texts (runtime : String) (s : SettingsConstant) :
    List String :=
  [runtime, Text.literal s.label, Number.natText s.plan.ttl.milliseconds,
    s.plan.jitterPercent.codeText, s.plan.refreshThresholdPercent.codeText]

/-- The texts in a decorator. -/
def Decorator.texts (config : Config) (d : Decorator) : List String :=
  d.settings.flatMap (SettingsConstant.texts config.runtime)
    ++ [d.title, config.runtime, config.asyncTraitPath]
    ++ d.functions.flatMap (functionTexts config.runtime)

/-- The texts in a file. -/
def SourceFile.texts (config : Config) (f : SourceFile) : List String :=
  (f.cache.map (Decorator.texts config)).getD []
    ++ (f.trace.map (Decorator.texts config)).getD []
    ++ (f.delegator.map fun _ => [config.runtime]).getD []

/-! ## Methods -/

section

variable {runtime : String}

/-- The words of the head of a method. -/
theorem Method.spells_signature {m : Method}
    (h : ∀ name ∈ m.headNames, Text.isIdentifier name = true) :
    Spells m.headNames m.headTexts (Text.words m.signature) := by
  obtain ⟨hname, hparams⟩ := List.forall_mem_cons.mp h
  have hlist : m.params.flatMap (fun q =>
        Text.words q.name ++ Text.words q.type)
      = m.params.flatMap fun q => q.name :: Text.words q.type := by
    refine List.flatMap_congr fun q hq => ?_
    have hq := hparams q.name (List.mem_map_of_mem hq)
    simp [hq]
  have hsignature : m.signature = "async fn " ++ m.name ++ "("
      ++ commaList ("&self" :: m.params.map fun q => q.name ++ ": " ++ q.type)
      ++ ") -> Result<" ++ m.returns.value ++ ", " ++ m.returns.error
      ++ ">" := rfl
  have hwords : Text.words m.signature
      = ["async", "fn", m.name, "self"]
        ++ (m.params.flatMap fun q => q.name :: Text.words q.type)
        ++ "Result" :: (Text.words m.returns.value
          ++ Text.words m.returns.error) := by
    rw [hsignature]
    simp +ground [String.append_assoc, words_commaList, hname,
      List.flatMap_map, hlist]
  have hhead : Spells [m.name] [] ["async", "fn", m.name, "self"] :=
    ⟨by simp, by simp +decide⟩
  have hspells : Spells (m.params.flatMap fun q => [q.name])
      (m.params.flatMap fun q => [q.type])
      (m.params.flatMap fun q => q.name :: Text.words q.type) :=
    .flatMap fun q _ => (Spells.name q.name).append (.text q.type)
  have hreturns : Spells [] [m.returns.value, m.returns.error]
      ("Result" :: (Text.words m.returns.value
        ++ Text.words m.returns.error)) :=
    .cons (by decide) ((Spells.text _).append (.text _))
  rw [hwords]
  simpa [headNames, headTexts, List.map_eq_flatMap] using
    (hhead.append hspells).append hreturns

/-- The words of a method. -/
theorem spells_functionCode {f : Method × Body} (hfits : f.2.Fits)
    (h : ∀ name ∈ functionNames f, Text.isIdentifier name = true) :
    Spells (functionNames f) (functionTexts runtime f)
      (Code.words (functionCode runtime f)) := by
  obtain ⟨hhead, hbody⟩ := List.forall_mem_append.mp h
  have hwords : Code.words (functionCode runtime f)
      = Text.words f.1.signature ++ Code.words (f.2.code runtime) := by
    have hopen : Text.words " \x7b" = [] := by decide
    have hclose : Text.words "\x7d" = [] := by decide
    rw [functionCode, Code.words_block,
      Text.words_append_of_stops (by decide), hopen, hclose, Code.words_nil]
    simp
  rw [hwords]
  exact (Method.spells_signature hhead).append (Body.spells_code hfits hbody)

/-! ## Decorators -/

/-- The words of a settings constant. -/
theorem SettingsConstant.spells_code {s : SettingsConstant}
    (h : Text.isIdentifier s.name = true) :
    Spells s.names (s.texts runtime) (Code.words [s.code runtime]) := by
  have hwords : Code.words [s.code runtime]
      = "const" :: s.name :: Text.words runtime ++ "CacheSettings"
        :: Text.words runtime ++ "CacheSettings" :: "method"
        :: Text.words (Text.literal s.label)
        ++ "ttl" :: "std" :: "time" :: "Duration" :: "from_millis"
        :: Text.words (Number.natText s.plan.ttl.milliseconds)
        ++ "jitter_percent" :: Text.words s.plan.jitterPercent.codeText
        ++ "refresh_threshold_percent"
        :: Text.words s.plan.refreshThresholdPercent.codeText := by
    simp +ground [code, String.append_assoc, h]
  rw [hwords]
  refine ⟨?_, ?_⟩
  · simp [names]
  · simp +decide +contextual [names, texts, or_imp]

namespace Decorator

variable {config : Config} {d : Decorator}

/-- The words of a decorator between its constants and its functions. -/
def headWords (config : Config) (d : Decorator) : List String :=
  let layer := "layer" :: Text.words config.runtime ++ ["CacheLayer"]
  Text.words d.title
    ++ ["decorator", "for", d.contract, "pub", "struct", d.name, "inner",
      "Arc", "dyn", d.contract]
    ++ (if d.layered then layer else [])
    ++ ["impl", d.name, "pub", "fn", "new", "inner", "Arc", "dyn",
      d.contract]
    ++ (if d.layered then layer else [])
    ++ ["Self", "Self", "inner"] ++ (if d.layered then ["layer"] else [])
    ++ Text.words config.asyncTraitPath
    ++ ["impl", d.contract, "for", d.name]

theorem words_code (hcontract : Text.isIdentifier d.contract = true)
    (hname : Text.isIdentifier d.name = true) :
    Code.words (d.code config)
      = (d.settings.flatMap fun s => Code.words [s.code config.runtime])
        ++ d.headWords config
        ++ d.functions.flatMap fun f =>
          Code.words (functionCode config.runtime f) := by
  cases hlayered : d.layered <;>
    simp +ground [code, headWords, String.append_assoc, hcontract, hname,
      Code.words_flatMap, Code.words_spaced, List.flatMap_map, hlayered]

theorem spells_headWords :
    Spells
      (d.contract :: d.name :: "inner" :: "new"
        :: if d.layered then ["layer"] else [])
      [d.title, config.runtime, config.asyncTraitPath]
      (d.headWords config) := by
  rw [headWords]
  cases d.layered with
  | false => exact ⟨by simp, by simp +decide +contextual [or_imp]⟩
  | true => exact ⟨by simp, by simp +decide +contextual [or_imp]⟩

/-- The words of a decorator. -/
theorem spells_code (hfits : ∀ f ∈ d.functions, f.2.Fits)
    (h : ∀ name ∈ d.names, Text.isIdentifier name = true) :
    Spells d.names (d.texts config) (Code.words (d.code config)) := by
  obtain ⟨hhead, hfunctions⟩ := List.forall_mem_append.mp h
  obtain ⟨hsettings, hhead⟩ := List.forall_mem_append.mp hhead
  have hconstants : Spells (d.settings.flatMap SettingsConstant.names)
      (d.settings.flatMap (SettingsConstant.texts config.runtime))
      (d.settings.flatMap fun s => Code.words [s.code config.runtime]) :=
    .flatMap fun s hs => SettingsConstant.spells_code
      (hsettings _ (List.mem_flatMap.mpr ⟨s, hs, List.mem_cons_self⟩))
  have hbodies : Spells (d.functions.flatMap functionNames)
      (d.functions.flatMap (functionTexts config.runtime))
      (d.functions.flatMap fun f =>
        Code.words (functionCode config.runtime f)) :=
    .flatMap fun f hf => spells_functionCode (hfits f hf) fun name hname =>
      hfunctions name (List.mem_flatMap.mpr ⟨f, hf, hname⟩)
  rw [words_code (hhead _ (by simp)) (hhead _ (by simp))]
  exact (hconstants.append spells_headWords).append hbodies

end Decorator

/-! ## Decorator stacks -/

namespace DelegatorItems

variable {d : DelegatorItems}
  (hcontract : Text.isIdentifier d.contract = true)

include hcontract

/-- The words of the alias and of the start function. -/
theorem spells_startCode
    (hstack : Text.isIdentifier (Names.delegator d.contract) = true)
    (hstart : Text.isIdentifier (Names.delegatorFunction d.contract) = true) :
    Spells [d.contract, Names.delegator d.contract,
        Names.delegatorFunction d.contract, "base", "new"]
      [runtime] (Code.words (d.startCode runtime)) := by
  have hwords : Code.words (d.startCode runtime)
      = ["Ordered", "decorator", "stack", "for", d.contract, "The", "first",
          "factory", "registered", "is", "the", "outermost", "layer", "pub",
          "type", Names.delegator d.contract]
        ++ Text.words runtime
        ++ ["DelegatorBuilder", "dyn", d.contract, "pub", "fn",
          Names.delegatorFunction d.contract, "base", "Arc", "dyn",
          d.contract, Names.delegator d.contract]
        ++ Text.words runtime ++ ["DelegatorBuilder", "new", "base"] := by
    simp +ground [startCode, shared, String.append_assoc, hcontract, hstack,
      hstart]
  rw [hwords]
  refine ⟨?_, ?_⟩
  · simp
  · simp +decide +contextual [or_imp]

/-- The words of the factory of the caching decorator. -/
theorem spells_cacheFactoryCode
    (hfactory : Text.isIdentifier (Names.cacheFactory d.contract) = true)
    (hname : Text.isIdentifier (Names.cacheDecorator d.contract) = true) :
    Spells [d.contract, Names.cacheFactory d.contract, "layer", "inner",
        Names.cacheDecorator d.contract, "clone"]
      [runtime] (Code.words (d.cacheFactoryCode runtime)) := by
  have hwords : Code.words (d.cacheFactoryCode runtime)
      = ["pub", "fn", Names.cacheFactory d.contract, "layer"]
        ++ Text.words runtime
        ++ ["CacheLayer", "impl", "Fn", "Arc", "dyn", d.contract, "Arc",
          "dyn", d.contract, "Send", "Sync", "static", "move", "inner", "Arc",
          "dyn", d.contract, "Arc", "dyn", d.contract, "Arc", "new",
          Names.cacheDecorator d.contract, "new", "inner", "layer",
          "clone"] := by
    simp +ground [cacheFactoryCode, factoryType, shared, String.append_assoc,
      hcontract, hfactory, hname]
  rw [hwords]
  refine ⟨?_, ?_⟩
  · simp
  · simp +decide +contextual [or_imp]

/-- The words of the factory of the tracing decorator. -/
theorem spells_traceFactoryCode
    (hfactory : Text.isIdentifier (Names.traceFactory d.contract) = true)
    (hname : Text.isIdentifier (Names.traceDecorator d.contract) = true) :
    Spells [d.contract, Names.traceFactory d.contract, "inner",
        Names.traceDecorator d.contract]
      [] (Code.words d.traceFactoryCode) := by
  have hwords : Code.words d.traceFactoryCode
      = ["pub", "fn", Names.traceFactory d.contract, "impl", "Fn", "Arc",
          "dyn", d.contract, "Arc", "dyn", d.contract, "Send", "Sync",
          "static", "inner", "Arc", "dyn", d.contract, "Arc", "dyn",
          d.contract, "Arc", "new", Names.traceDecorator d.contract, "new",
          "inner"] := by
    simp +ground [traceFactoryCode, factoryType, shared, String.append_assoc,
      hcontract, hfactory, hname]
  rw [hwords]
  refine ⟨?_, ?_⟩
  · simp
  · simp +decide

omit hcontract

/-- The words of the stack items. -/
theorem spells_code {config : Config}
    (h : ∀ name ∈ d.names, Text.isIdentifier name = true) :
    Spells d.names [config.runtime] (Code.words (d.code config)) := by
  have hcontract : Text.isIdentifier d.contract = true :=
    h _ (by simp [names])
  have hstart : Spells _ [config.runtime]
      (Code.words (d.startCode config.runtime)) :=
    spells_startCode hcontract (h _ (by simp [names]))
      (h _ (by simp [names]))
  have hcache : Spells _ _ (if d.hasCache then
      Code.words (d.cacheFactoryCode config.runtime) else []) :=
    .ite fun hcache => spells_cacheFactoryCode hcontract
      (h _ (by simp [names, hcache])) (h _ (by simp [names, hcache]))
  have htrace : Spells _ _ (if d.hasTrace then
      Code.words d.traceFactoryCode else []) :=
    .ite fun htrace => spells_traceFactoryCode hcontract
      (h _ (by simp [names, htrace])) (h _ (by simp [names, htrace]))
  rw [code, Code.words_append, Code.words_append, apply_ite Code.words,
    apply_ite Code.words, Code.words_blank, Code.words_blank]
  refine (((hstart.append hcache).append htrace).congr fun name => ?_).mono ?_
  · -- the factories write the name of the contract once more
    simp only [names, List.mem_append]
    grind
  · simp +contextual

end DelegatorItems

end

/-! ## Files -/

namespace SourceFile

/-- The words of a section that may be missing. -/
theorem spells_sectionCode {α : Type} {namesOf textsOf : α → List String}
    {code : α → List Code} {x : Option α}
    (h : ∀ a, x = some a →
      Spells (namesOf a) (textsOf a) (Code.words (code a))) :
    Spells ((x.map namesOf).getD []) ((x.map textsOf).getD [])
      (Code.words (sectionCode code x)) := by
  cases x with
  | none => exact .nil
  | some a => simpa [sectionCode] using h a rfl

/-- Whether all bindings of a file fit. -/
def Fits (f : SourceFile) : Prop :=
  ∀ d, f.cache = some d ∨ f.trace = some d → ∀ g ∈ d.functions, g.2.Fits

/-- The words of the declarations of a file. -/
theorem spells_declarations {config : Config} {f : SourceFile}
    (hfits : f.Fits)
    (h : ∀ name ∈ f.names, Text.isIdentifier name = true) :
    Spells f.names (f.texts config) (Code.words (f.declarations config)) := by
  obtain ⟨h, hdelegator⟩ := List.forall_mem_append.mp h
  obtain ⟨hcache, htrace⟩ := List.forall_mem_append.mp h
  rw [declarations, Code.words_append, Code.words_append]
  refine ((spells_sectionCode fun d hd => ?_).append
    (spells_sectionCode fun d hd => ?_)).append
    (spells_sectionCode fun d hd => ?_)
  · exact Decorator.spells_code (hfits d (.inl hd))
      (by simpa [hd] using hcache)
  · exact Decorator.spells_code (hfits d (.inr hd))
      (by simpa [hd] using htrace)
  · exact DelegatorItems.spells_code (by simpa [hd] using hdelegator)

end SourceFile

namespace ContractPlan

theorem fits_forwardBody (m : Method) : (forwardBody m).Fits := by
  simp [forwardBody, Body.Fits, Tail.loader]

theorem fits_cacheBody (contract : String) (m : MethodPlan) :
    (cacheBody contract m).Fits := by
  have hcaptured : ∀ b ∈ capturedParams m.method, b.Fits := by
    intro b hb
    obtain ⟨q, -, rfl⟩ := List.mem_map.mp hb
    simp [Binding.Fits]
  have hloader : ∀ b ∈ loaderBindings m.method, b.Fits := by
    simp [loaderBindings, Binding.Fits]
  have hkeys : ∀ ks, (evictBinding ks).Fits := by
    simp [evictBinding, Binding.Fits]
  cases hcache : m.cache with
  | some cache =>
    have hkey : Binding.Fits ⟨Names.key, .key cache.key⟩ := by
      simp [Binding.Fits]
    have hinner : Binding.Fits ⟨Names.inner, .innerField⟩ := by
      simp [Binding.Fits]
    simpa [cacheBody, hcache, Body.Fits, Tail.loader, or_imp, forall_and,
      hkeys, hkey, hinner] using ⟨hcaptured, hloader⟩
  | none =>
    cases hevict : m.evict with
    | none => simpa [cacheBody, hcache, hevict] using fits_forwardBody m.method
    | some ks =>
      have hresult : Binding.Fits ⟨Names.result,
          .forwardedCall m.method.name (m.method.params.map Param.name)⟩ := by
        simp [Binding.Fits]
      simp [cacheBody, hcache, hevict, Body.Fits, Tail.loader, hkeys, hresult]

theorem fits_traceBody (m : MethodPlan) : (traceBody m).Fits := by
  cases htrace : m.trace with
  | none => simpa [traceBody, htrace] using fits_forwardBody m.method
  | some t => simp [traceBody, htrace, Body.Fits, Binding.Fits, Tail.loader]

/-- In the file of a plan, keys are bound under the name for them. -/
theorem fits_ofPlan (config : Config) (p : ContractPlan) :
    (SourceFile.ofPlan config p).Fits := by
  intro d hd g hg
  rcases hd with hd | hd
  · obtain ⟨-, rfl⟩ : p.needsCacheLayer = true ∧ cacheDecorator p = d := by
      simpa [SourceFile.ofPlan] using hd
    obtain ⟨m, -, rfl⟩ := List.mem_map.mp hg
    exact fits_cacheBody _ m
  · obtain ⟨-, rfl⟩ : p.needsTraceLayer = true ∧ traceDecorator p = d := by
      simpa [SourceFile.ofPlan] using hd
    obtain ⟨m, -, rfl⟩ := List.mem_map.mp hg
    exact fits_traceBody m

/-- The words in the file of a plan are those of its preamble and of its
declarations.  Each name that is listed for the file is a word of the
declarations.  Any other word of them belongs to the vocabulary, or to a text
of the contract or the configuration. -/
theorem spells_render {table : BuiltinTable} {c : Contract}
    {p : ContractPlan} (hplan : c.plan table = .ok p) (config : Config) :
    Text.words (p.render config)
        = Code.words (SourceFile.preamble config p.contract)
          ++ Code.words ((SourceFile.ofPlan config p).declarations config)
      ∧ Spells (SourceFile.ofPlan config p).names
        ((SourceFile.ofPlan config p).texts config)
        (Code.words ((SourceFile.ofPlan config p).declarations config)) := by
  constructor
  · rw [render_eq, SourceFile.text, Code.words_text, SourceFile.code_eq,
      Code.words_append]
    rfl
  · exact SourceFile.spells_declarations (fits_ofPlan config p)
      fun name hname => (supplies_of_mem_names hplan hname).isIdentifier hplan

/-- Where the reserved words are spared, a word of the declarations of a file
is legal, or one that the file uses of the language, or it stands in a text. -/
theorem Spares.legal_of_mem_words {table : BuiltinTable} {c : Contract}
    {p : ContractPlan} {config : Config} (hspares : p.Spares config)
    (hplan : c.plan table = .ok p) {w : String}
    (hw : w ∈ Code.words
      ((SourceFile.ofPlan config p).declarations config)) :
    Text.LegalName w ∨ w ∈ Names.language
      ∨ ∃ text ∈ (SourceFile.ofPlan config p).texts config,
          w ∈ Text.words text := by
  have hspells := (spells_render hplan config).2
  obtain hname | hvocabulary | htext := hspells.known w hw
  · exact .inl (hspares.legal_of_mem_names hplan hname)
  · rw [Names.vocabulary, List.append_assoc, List.mem_append] at hvocabulary
    rcases hvocabulary with hlanguage | hother
    · exact .inr (.inl hlanguage)
    · exact .inl (Names.legalName_of_mem_vocabulary hother)
  · exact .inr (.inr htext)

end ContractPlan

end PolicyWeave
