import PolicyWeave.Proofs.Config.Paths
import PolicyWeave.Proofs.Source.Emission
import PolicyWeave.Proofs.Source.ItemReader
import PolicyWeave.Proofs.Source.LegalNames
import PolicyWeave.Proofs.Source.Settings

/-!
# The items of a generated file

A file holds the decorators that its contract needs and the stack items that
its configuration asks for, and no other items.  Each decorator implements the
whole contract.

There are four groups.

* `Decorator.items_code` and `DelegatorItems.items_code` are the items of the
  sections, as `Code.items` reads them.
* `Implements` says which functions an implementation has.  The lines of a
  body tell the methods that a decorator serves from the others.
* The texts of an accepted configuration stand on one line, so the lines of a
  file are read as the same items.
* `ContractPlan.items_complete` is the file as a whole.
-/

namespace PolicyWeave

/-! ## The items of sections -/

/-- Functions with an empty line between each two are read one by one. -/
theorem Code.filterMap_function?_spaced (runtime : String)
    (fs : List (Method × Body)) :
    (spaced (fs.map (functionCode runtime))).filterMap function?
      = fs.map fun f =>
          (f.1.signature ++ " \x7b", lines (f.2.code runtime)) := by
  induction fs with
  | nil => rfl
  | cons f fs ih =>
    cases fs with
    | nil => rfl
    | cons g fs =>
      rw [List.map_cons, List.map_cons, spaced, List.filterMap_append,
        List.filterMap_cons]
      exact congrArg _ ih

/-- The functions of a decorator, as they are read. -/
def Decorator.readFunctions (runtime : String) (d : Decorator) :
    List (String × List (List Char)) :=
  d.functions.map fun f =>
    (f.1.signature ++ " \x7b", Code.lines (f.2.code runtime))

/-- Settings constants are read one by one. -/
theorem SettingsConstant.items_code (runtime : String)
    {ss : List SettingsConstant}
    (h : ∀ s ∈ ss, Text.isIdentifier s.name = true) :
    Code.items (ss.flatMap fun s => [s.code runtime, .blank])
      = ss.map fun s => Item.constant s.name := by
  induction ss with
  | nil => rfl
  | cons s ss ih =>
    obtain ⟨hs, hss⟩ := List.forall_mem_cons.mp h
    have hfirst : Code.item? (s.code runtime)
        = some (Item.constant s.name) := by
      simp only [code, String.append_assoc]
      exact Code.item?_constant hs (Text.stopsName_append (by decide) _) _ _
    rw [List.flatMap_cons, List.cons_append, Code.items_cons hfirst,
      List.singleton_append, Code.items_cons_of_none Code.item?_blank, ih hss,
      List.map_cons]

/-- A decorator is read as its constants, its type, the construction of the
type, and the implementation of the contract. -/
theorem Decorator.items_code (config : Config) (d : Decorator)
    (hname : Text.isIdentifier d.name = true)
    (hcontract : Text.isIdentifier d.contract = true)
    (hsettings : ∀ s ∈ d.settings, Text.isIdentifier s.name = true) :
    Code.items (d.code config)
      = d.settings.map (fun s => Item.constant s.name)
        ++ [Item.type d.name, Item.construction d.name,
          Item.implementation d.contract d.name
            (d.readFunctions config.runtime)] := by
  have hopen : Text.stopsName " \x7b" = true := by decide
  -- The comment, the attribute and the empty lines between are no items.
  rw [code, Code.items_append, SettingsConstant.items_code _ hsettings]
  simp only [String.append_assoc]
  rw [Code.items_cons_of_none (Code.item?_remark (by decide) (by decide) _),
    Code.items_cons (Code.item?_type hname hopen _ _),
    Code.items_cons_of_none Code.item?_blank,
    Code.items_cons (Code.item?_construction hname _ _),
    Code.items_cons_of_none Code.item?_blank,
    Code.items_cons_of_none (Code.item?_remark (by decide) (by decide) _),
    Code.items_cons (Code.item?_implementation hname hopen _ _ hcontract),
    Code.filterMap_function?_spaced]
  rfl

/-- Stack items are read as the alias, the start function, and a factory for
each decorator. -/
theorem DelegatorItems.items_code (config : Config) (d : DelegatorItems)
    (hcontract : Text.isIdentifier d.contract = true) :
    Code.items (d.code config)
      = [Item.alias (Names.delegator d.contract),
          Item.function (Names.delegatorFunction d.contract)]
        ++ (if d.hasCache then [Item.function (Names.cacheFactory d.contract)]
          else [])
        ++ (if d.hasTrace then [Item.function (Names.traceFactory d.contract)]
          else []) := by
  have hlegal : ∀ name ∈ Names.ofContract d.contract,
      Text.isIdentifier name = true := fun name hname =>
    (Names.legalName_of_mem_ofContract hcontract hname).identifier
  have hstart : Code.items (d.startCode config.runtime)
      = [Item.alias (Names.delegator d.contract),
          Item.function (Names.delegatorFunction d.contract)] := by
    simp only [startCode, String.append_assoc]
    rw [Code.items_cons_of_none (Code.item?_remark (by decide) (by decide) _),
      Code.items_cons (Code.item?_alias (hlegal _ (by simp [Names.ofContract]))
        (Text.stopsName_append (by decide) _)),
      Code.items_cons_of_none Code.item?_blank,
      Code.items_function (hlegal _ (by simp [Names.ofContract]))
        (Text.stopsName_append (by decide) _)]
  have hcache : Code.items (.blank :: d.cacheFactoryCode config.runtime)
      = [Item.function (Names.cacheFactory d.contract)] := by
    simp only [cacheFactoryCode, String.append_assoc]
    rw [Code.items_cons_of_none Code.item?_blank,
      Code.items_function (hlegal _ (by simp [Names.ofContract]))
        (Text.stopsName_append (by decide) _)]
  have htrace : Code.items (.blank :: d.traceFactoryCode)
      = [Item.function (Names.traceFactory d.contract)] := by
    simp only [traceFactoryCode, String.append_assoc]
    rw [Code.items_cons_of_none Code.item?_blank,
      Code.items_function (hlegal _ (by simp [Names.ofContract]))
        (Text.stopsName_append (by decide) _)]
  rw [code, Code.items_append, Code.items_append, hstart,
    apply_ite Code.items, apply_ite Code.items, hcache, htrace]
  rfl

/-! ## The sections of a file -/

namespace SourceFile

/-- The code of a file behind the preamble. -/
def declarations (config : Config) (f : SourceFile) : List Code :=
  sectionCode (Decorator.code config) f.cache
    ++ sectionCode (Decorator.code config) f.trace
    ++ sectionCode (DelegatorItems.code config) f.delegator

theorem code_eq (config : Config) (f : SourceFile) :
    f.code config = preamble config f.contract ++ f.declarations config := by
  rw [code, declarations, List.append_assoc, List.append_assoc,
    List.append_assoc]

/-- A section has items if it is there. -/
theorem items_sectionCode {α : Type} (code : α → List Code) (present : Bool)
    (x : α) :
    Code.items (sectionCode code (if present then some x else none))
      = if present then Code.items (code x) else [] := by
  cases present with
  | false => rfl
  | true => exact Code.items_cons_of_none Code.item?_blank (code x)

/-- An empty line stands on one line. -/
theorem oneLine_sectionCode {α : Type} {code : α → List Code}
    {present : Bool} {x : α} (h : ∀ c ∈ code x, c.OneLine) :
    ∀ c ∈ sectionCode code (if present then some x else none), c.OneLine := by
  cases present with
  | false => exact fun c hc => nomatch hc
  | true => exact List.forall_mem_cons.mpr ⟨trivial, h⟩

end SourceFile

/-! ## The lines of bodies -/

theorem Binding.pieceLines_code_ne_nil (runtime : String) (b : Binding) :
    (b.code runtime).pieceLines ≠ [] := by
  obtain ⟨name, value⟩ := b
  cases value <;>
    simp [code, evictListCode, Code.pieceLines, Text.splitOn_ne_nil]

theorem Tail.lines_code_ne_nil (runtime : String) (t : Tail) :
    Code.lines (t.code runtime) ≠ [] := by
  cases t <;>
    simp [code, evictOnSuccessCode, Code.lines, Code.pieceLines,
      Text.splitOn_ne_nil]

/-- A body with a binding has more than one line. -/
theorem Body.lines_code_ne_singleton {runtime : String} {b : Body}
    (h : b.bindings ≠ []) (line : List Char) :
    Code.lines (b.code runtime) ≠ [line] := by
  obtain ⟨first, rest, hbindings⟩ := List.exists_cons_of_ne_nil h
  intro hlines
  have hfirst := List.length_pos_of_ne_nil
    (first.pieceLines_code_ne_nil runtime)
  have htail := List.length_pos_of_ne_nil (b.tail.lines_code_ne_nil runtime)
  have hlength := congrArg List.length hlines
  rw [code, hbindings, List.map_cons, Code.lines_append, Code.lines] at hlength
  simp only [List.length_append, List.length_singleton] at hlength
  omega

/-- The plain call of a sound method stands on one line. -/
theorem Method.newline_not_mem_forwardCall {m : Method} (h : m.Sound) :
    '\n' ∉ m.forwardCall.toList := by
  have hname := Text.newline_not_mem h.name.identifier
  have hargs : '\n' ∉ (commaList (m.params.map Param.name)).toList := by
    rw [commaList, String.toList_intercalate]
    intro hmem
    rcases mem_or_exists_of_mem_intercalate hmem with hmem | ⟨_, hparam, hmem⟩
    · exact absurd hmem (by decide)
    · simp only [List.mem_map] at hparam
      obtain ⟨_, ⟨q, hq, rfl⟩, rfl⟩ := hparam
      exact Text.newline_not_mem (h.params q hq).identifier hmem
  simp [forwardCall, forwardText, hname, hargs]

theorem lines_forwardBody (runtime : String) {m : Method} (h : m.Sound) :
    Code.lines ((forwardBody m).code runtime) = [m.forwardCall.toList] :=
  (List.append_nil _).trans
    (Text.splitOn_eq_singleton (m.newline_not_mem_forwardCall h))

section

variable {runtime contract : String} {p : MethodPlan} (h : p.method.Sound)

include h

/-- A caching body is the plain call exactly of a method that is neither
cached nor evicts. -/
theorem lines_cacheBody_eq_iff :
    Code.lines ((cacheBody contract p).code runtime)
        = [p.method.forwardCall.toList] ↔
      (p.cache.isSome || p.evict.isSome) = false := by
  -- Only a method that is not served has a body without bindings.
  cases hcache : p.cache with
  | some cache =>
    have hbindings : (cacheBody contract p).bindings ≠ [] := by
      simp [cacheBody, hcache]
    simpa using Body.lines_code_ne_singleton hbindings _
  | none =>
    cases hevict : p.evict with
    | some ks =>
      have hbindings : (cacheBody contract p).bindings ≠ [] := by
        simp [cacheBody, hcache, hevict]
      simpa using Body.lines_code_ne_singleton hbindings _
    | none => simp [cacheBody, hcache, hevict, lines_forwardBody runtime h]

/-- A tracing body is the plain call exactly of a method that is not
traced. -/
theorem lines_traceBody_eq_iff :
    Code.lines ((traceBody p).code runtime)
        = [p.method.forwardCall.toList] ↔
      p.trace.isSome = false := by
  cases htrace : p.trace with
  | some t =>
    have hbindings : (traceBody p).bindings ≠ [] := by
      simp [traceBody, htrace]
    simpa using Body.lines_code_ne_singleton hbindings _
  | none => simp [traceBody, htrace, lines_forwardBody runtime h]

end

/-! ## Texts of one line -/

section

variable {config : Config} (hruntime : '\n' ∉ config.runtime.toList)
  (htrait : '\n' ∉ config.asyncTraitPath.toList)

include hruntime

theorem SettingsConstant.oneLine_code {s : SettingsConstant}
    (hname : '\n' ∉ s.name.toList) : (s.code config.runtime).OneLine := by
  refine ⟨?_, by decide, by rfl⟩
  simp [hname, hruntime]

include htrait

/-- The texts of a decorator at depth zero are one line each. -/
theorem Decorator.oneLine_code {d : Decorator} (hname : '\n' ∉ d.name.toList)
    (hcontract : '\n' ∉ d.contract.toList) (htitle : '\n' ∉ d.title.toList)
    (hsettings : ∀ s ∈ d.settings, '\n' ∉ s.name.toList) :
    ∀ c ∈ d.code config, c.OneLine := by
  have hclosing : Code.itemOf? [] ['\x7d'] = none := rfl
  have hconstants : ∀ c ∈ d.settings.flatMap fun s =>
      [s.code config.runtime, .blank], c.OneLine := by
    intro c hc
    obtain ⟨s, hs, hc⟩ := List.mem_flatMap.mp hc
    rcases List.mem_pair.mp hc with rfl | rfl
    · exact s.oneLine_code hruntime (hsettings s hs)
    · trivial
  rw [code]
  refine List.forall_mem_append.mpr ⟨hconstants, ?_⟩
  simp [Code.OneLine, hclosing, hname, hcontract, htitle, htrait]

omit htrait in
/-- So are those of stack items. -/
theorem DelegatorItems.oneLine_code {d : DelegatorItems}
    (hcontract : Text.isIdentifier d.contract = true) :
    ∀ c ∈ d.code config, c.OneLine := by
  have hclosing : Code.itemOf? [] ['\x7d'] = none := rfl
  have hname := Text.newline_not_mem hcontract
  have hnames : ∀ name ∈ Names.ofContract d.contract, '\n' ∉ name.toList :=
    fun name h => Text.newline_not_mem
      (Names.legalName_of_mem_ofContract hcontract h).identifier
  simp only [Names.ofContract, List.forall_mem_cons] at hnames
  cases hcache : d.hasCache <;> cases htrace : d.hasTrace <;>
    simp [code, startCode, cacheFactoryCode, traceFactoryCode, shared,
      factoryType, Code.OneLine, hcache, htrace, hclosing, hname, hnames,
      hruntime]

end

/-! ## Files of plans -/

/-- Whether a method reads or evicts cached entries. -/
def Method.usesCache (m : Method) : Bool := m.cache.isSome || m.evict.isSome

/-- Whether functions are those of methods: one for each, in their order,
under its signature.  The plain call is the one line of the body exactly of
the methods that are not served. -/
def Implements (served : Method → Bool) (methods : List Method)
    (functions : List (String × List (List Char))) : Prop :=
  List.Forall₂
    (fun m f => f.1 = m.signature ++ " \x7b"
      ∧ (f.2 = [m.forwardCall.toList] ↔ served m = false))
    methods functions

/-- The items of a decorator, without constants. -/
def decoratorItems (contract name : String)
    (functions : List (String × List (List Char))) : List Item :=
  [.type name, .construction name, .implementation contract name functions]

/-- The items that a contract and a configuration ask for.  The caching
decorator is there if a method is cached or evicts, the tracing decorator if
one is traced, and the stack items if the configuration asks for them, with a
factory for each decorator that is there. -/
def Contract.fileItems (config : Config) (c : Contract)
    (caching tracing : List (String × List (List Char))) : List Item :=
  (if c.methods.any Method.usesCache then
      c.cachedNames.map (fun name => Item.constant (Names.settings c.name name))
        ++ decoratorItems c.name (Names.cacheDecorator c.name) caching
    else [])
  ++ (if c.methods.any fun m => m.trace.isSome then
      decoratorItems c.name (Names.traceDecorator c.name) tracing
    else [])
  ++ (if config.emitDelegator then
      [Item.alias (Names.delegator c.name),
          Item.function (Names.delegatorFunction c.name)]
        ++ (if c.methods.any Method.usesCache then
          [Item.function (Names.cacheFactory c.name)] else [])
        ++ (if c.methods.any fun m => m.trace.isSome then
          [Item.function (Names.traceFactory c.name)] else [])
    else [])

theorem Contract.unknown_not_mem_fileItems (config : Config) (c : Contract)
    (caching tracing : List (String × List (List Char))) :
    Item.unknown ∉ c.fileItems config caching tracing := by
  simp [fileItems, decoratorItems]

namespace ContractPlan

variable {table : BuiltinTable} {c : Contract} {p : ContractPlan}

section

variable (hplan : c.plan table = .ok p) {m : Method}

include hplan

/-- The plan of a method is cached exactly if the method is. -/
theorem isSome_cache_plan (hm : m ∈ c.methods) :
    (m.plan table c).cache.isSome = m.cache.isSome := by
  simpa [settingsConstant?] using
    congrArg Option.isSome (map_name_settingsConstant? hplan hm)

theorem usesCache_plan (hm : m ∈ c.methods) :
    ((m.plan table c).cache.isSome || (m.plan table c).evict.isSome)
      = m.usesCache := by
  rw [isSome_cache_plan hplan hm, Method.usesCache]
  simp [Method.plan]

theorem needsCacheLayer_eq :
    p.needsCacheLayer = c.methods.any Method.usesCache := by
  have huses := fun m => usesCache_plan (m := m) hplan
  obtain ⟨-, rfl⟩ := Contract.plan_eq_ok_iff.mp hplan
  rw [needsCacheLayer, List.any_map, Bool.eq_iff_iff, List.any_eq_true,
    List.any_eq_true]
  refine exists_congr fun m => and_congr_right fun hm => ?_
  rw [Function.comp_apply, huses m hm]

theorem needsTraceLayer_eq :
    p.needsTraceLayer = c.methods.any fun m => m.trace.isSome := by
  obtain ⟨-, rfl⟩ := Contract.plan_eq_ok_iff.mp hplan
  simp [needsTraceLayer, List.any_map, Function.comp_def, Method.plan]

theorem implements_cacheDecorator (runtime : String) :
    Implements Method.usesCache c.methods
      ((cacheDecorator p).readFunctions runtime) := by
  have hsound := sound_of_plan hplan
  have huses := fun m => usesCache_plan (m := m) hplan
  obtain ⟨-, rfl⟩ := Contract.plan_eq_ok_iff.mp hplan
  simp only [Implements, Decorator.readFunctions, cacheDecorator, List.map_map]
  refine List.forall₂_map_right_iff.mpr (List.forall₂_same.mpr fun m hm => ?_)
  refine ⟨rfl, ?_⟩
  rw [← huses m hm]
  exact lines_cacheBody_eq_iff (hsound.methods m hm)

theorem implements_traceDecorator (runtime : String) :
    Implements (fun m => m.trace.isSome) c.methods
      ((traceDecorator p).readFunctions runtime) := by
  have hsound := sound_of_plan hplan
  obtain ⟨-, rfl⟩ := Contract.plan_eq_ok_iff.mp hplan
  simp only [Implements, Decorator.readFunctions, traceDecorator, List.map_map]
  refine List.forall₂_map_right_iff.mpr (List.forall₂_same.mpr fun m hm => ?_)
  refine ⟨rfl, ?_⟩
  have htraced : (m.plan table c).trace.isSome = m.trace.isSome := by
    simp [Method.plan]
  rw [← htraced]
  exact lines_traceBody_eq_iff (hsound.methods m hm)

end

theorem contract_of_plan (hplan : c.plan table = .ok p) : c = p.contract := by
  obtain ⟨-, rfl⟩ := Contract.plan_eq_ok_iff.mp hplan
  rfl

/-- The names of the settings constants are identifiers. -/
theorem isIdentifier_settings (hplan : c.plan table = .ok p) :
    ∀ s ∈ (cacheDecorator p).settings, Text.isIdentifier s.name = true := by
  have hsound := sound_of_plan hplan
  have hnames := map_name_settings hplan
  obtain rfl := contract_of_plan hplan
  intro s hs
  have hname := List.mem_map_of_mem (f := SettingsConstant.name) hs
  rw [hnames] at hname
  obtain ⟨name, hcached, hname⟩ := List.mem_map.mp hname
  obtain ⟨m, hm, hcache⟩ := List.mem_filterMap.mp hcached
  obtain ⟨_, -, rfl⟩ := Option.map_eq_some_iff.mp hcache
  rw [← hname]
  exact (Names.legalName_settings hsound.name.identifier
    (hsound.methods m hm).name.identifier).identifier

/-- The items of the caching decorator of a plan. -/
theorem items_cacheDecorator (hplan : c.plan table = .ok p) (config : Config) :
    Code.items ((cacheDecorator p).code config)
      = c.cachedNames.map
          (fun name => Item.constant (Names.settings c.name name))
        ++ decoratorItems c.name (Names.cacheDecorator c.name)
          ((cacheDecorator p).readFunctions config.runtime) := by
  have hcontract := (sound_of_plan hplan).name.identifier
  have hname : Text.isIdentifier (cacheDecorator p).name = true :=
    (Names.legalName_of_mem_ofContract hcontract
      (by simp [Names.ofContract, cacheDecorator])).identifier
  have hconstants := congrArg (List.map Item.constant) (map_name_settings hplan)
  rw [List.map_map, List.map_map] at hconstants
  obtain rfl := contract_of_plan hplan
  rw [(cacheDecorator p).items_code config hname hcontract
    (isIdentifier_settings hplan)]
  exact congrArg (· ++ _) hconstants

theorem items_traceDecorator (hplan : c.plan table = .ok p) (config : Config) :
    Code.items ((traceDecorator p).code config)
      = decoratorItems c.name (Names.traceDecorator c.name)
          ((traceDecorator p).readFunctions config.runtime) := by
  have hcontract := (sound_of_plan hplan).name.identifier
  have hname : Text.isIdentifier (traceDecorator p).name = true :=
    (Names.legalName_of_mem_ofContract hcontract
      (by simp [Names.ofContract, traceDecorator])).identifier
  have hnone : ∀ s ∈ (traceDecorator p).settings,
      Text.isIdentifier s.name = true := by
    simp [traceDecorator]
  obtain rfl := contract_of_plan hplan
  exact (traceDecorator p).items_code config hname hcontract hnone

/-- The stack items of a plan: a factory for each decorator that the methods
ask for. -/
theorem items_delegatorItems (hplan : c.plan table = .ok p) (config : Config) :
    Code.items ((delegatorItems p).code config)
      = [Item.alias (Names.delegator c.name),
          Item.function (Names.delegatorFunction c.name)]
        ++ (if c.methods.any Method.usesCache then
          [Item.function (Names.cacheFactory c.name)] else [])
        ++ (if c.methods.any fun m => m.trace.isSome then
          [Item.function (Names.traceFactory c.name)] else []) := by
  have hsound := sound_of_plan hplan
  rw [← needsCacheLayer_eq hplan, ← needsTraceLayer_eq hplan]
  obtain rfl := contract_of_plan hplan
  exact (delegatorItems p).items_code config hsound.name.identifier

/-- The items of a generated file, as they are read from its code. -/
theorem items_declarations (hplan : c.plan table = .ok p) (config : Config) :
    Code.items ((SourceFile.ofPlan config p).declarations config)
      = c.fileItems config ((cacheDecorator p).readFunctions config.runtime)
          ((traceDecorator p).readFunctions config.runtime) := by
  rw [SourceFile.declarations, SourceFile.ofPlan, Code.items_append,
    Code.items_append, SourceFile.items_sectionCode,
    SourceFile.items_sectionCode, SourceFile.items_sectionCode,
    items_cacheDecorator hplan, items_traceDecorator hplan,
    items_delegatorItems hplan, needsCacheLayer_eq hplan,
    needsTraceLayer_eq hplan]
  rfl

/-- In a file of an accepted configuration, the texts at depth zero are one
line each. -/
theorem oneLine_declarations (hplan : c.plan table = .ok p) {config : Config}
    (hconfig : config.fault? = none) :
    ∀ piece ∈ (SourceFile.ofPlan config p).declarations config,
      piece.OneLine := by
  have hcontract := (sound_of_plan hplan).name.identifier
  have hname := Text.newline_not_mem hcontract
  have hpath := Config.isPath_of_fault?_eq_none hconfig
  have hruntime : '\n' ∉ config.runtime.toList := by
    rw [Config.runtime, Config.trimSeparators_of_isPath hpath,
      String.ofList_toList]
    exact Config.newline_not_mem_of_isPath hpath
  have htrait := Config.newline_not_mem_of_isPath
    (Config.isPath_asyncTraitPath_of_fault?_eq_none hconfig)
  have hnames : ∀ name ∈ Names.ofContract p.contract.name,
      '\n' ∉ name.toList := fun name h =>
    Text.newline_not_mem
      (Names.legalName_of_mem_ofContract hcontract h).identifier
  have hcache : ∀ piece ∈ (cacheDecorator p).code config, piece.OneLine :=
    Decorator.oneLine_code hruntime htrait
      (hnames _ (by simp [Names.ofContract, cacheDecorator])) hname
      (by decide : '\n' ∉ "Caching".toList) fun s hs =>
        Text.newline_not_mem (isIdentifier_settings hplan s hs)
  have htrace : ∀ piece ∈ (traceDecorator p).code config, piece.OneLine :=
    Decorator.oneLine_code hruntime htrait
      (hnames _ (by simp [Names.ofContract, traceDecorator])) hname
      (by decide : '\n' ∉ "Tracing".toList) (by simp [traceDecorator])
  have hstack : ∀ piece ∈ (delegatorItems p).code config, piece.OneLine :=
    DelegatorItems.oneLine_code hruntime hcontract
  rw [SourceFile.declarations]
  simp only [List.forall_mem_append]
  exact ⟨⟨SourceFile.oneLine_sectionCode hcache,
    SourceFile.oneLine_sectionCode htrace⟩,
    SourceFile.oneLine_sectionCode hstack⟩

/-- The lines of the text of a file below its preamble. -/
def declarationLines (config : Config) (p : ContractPlan) :
    List (List Char) :=
  (Text.splitOn '\n' (p.render config).toList).drop
    (Code.lines (SourceFile.preamble config p.contract)).length

/-- They are the lines of the declarations, and the end of the text. -/
theorem declarationLines_eq (config : Config) (p : ContractPlan) :
    p.declarationLines config
      = Code.lines ((SourceFile.ofPlan config p).declarations config)
        ++ [[]] := by
  rw [declarationLines, render_eq, SourceFile.text, Code.splitOn_text,
    SourceFile.code_eq, Code.lines_append, List.append_assoc]
  exact List.drop_left

/-- A generated file is written as its preamble and its declarations.  The
declarations have the items that the contract and the configuration ask for,
and no others.  Each decorator implements all methods, in their order.  Where
the configuration is an accepted one, the lines of the text below the preamble
start these items and no others. -/
theorem items_complete (hplan : c.plan table = .ok p) (config : Config) :
    p.emitFile config
        = Code.stepsOf (SourceFile.preamble config c
            ++ (SourceFile.ofPlan config p).declarations config)
      ∧ ∃ caching tracing,
        Implements Method.usesCache c.methods caching
          ∧ Implements (fun m => m.trace.isSome) c.methods tracing
          ∧ Code.items ((SourceFile.ofPlan config p).declarations config)
              = c.fileItems config caching tracing
          ∧ (config.fault? = none →
              Code.lineItems (p.declarationLines config)
                = (c.fileItems config caching tracing).map Item.bare) := by
  refine ⟨?_, _, _, implements_cacheDecorator hplan config.runtime,
    implements_traceDecorator hplan config.runtime,
    items_declarations hplan config, fun hconfig => ?_⟩
  · obtain rfl := contract_of_plan hplan
    rw [emitFile_eq, SourceFile.code_eq]
    rfl
  · have hlines := Code.lineItems_lines (oneLine_declarations hplan hconfig)
    rw [items_declarations hplan] at hlines
    rw [declarationLines_eq, Code.lineItems_append,
      hlines (c.unknown_not_mem_fileItems _ _ _)]
    exact List.append_nil _

/-- The items of the file of the user service. -/
theorem items_userService :
    ∃ p, Sample.userService.plan .standard = .ok p ∧ ∃ caching tracing,
      Implements Method.usesCache Sample.userService.methods caching
        ∧ Implements (fun m => m.trace.isSome) Sample.userService.methods
          tracing
        ∧ Code.items ((SourceFile.ofPlan .standard p).declarations .standard)
          = [.constant "USER_SERVICE_GET_USER_CACHE",
            .constant "USER_SERVICE_LIST_USERS_CACHE",
            .type "UserServiceCache", .construction "UserServiceCache",
            .implementation "UserService" "UserServiceCache" caching,
            .type "UserServiceTrace", .construction "UserServiceTrace",
            .implementation "UserService" "UserServiceTrace" tracing,
            .alias "UserServiceDelegator",
            .function "user_service_delegator",
            .function "user_service_cache",
            .function "user_service_trace"]
        ∧ Code.lineItems (p.declarationLines .standard)
          = (Code.items ((SourceFile.ofPlan .standard p).declarations
              .standard)).map Item.bare := by
  have hplan := Contract.plan_of_planErrors_eq_nil
    (by decide +kernel : Sample.userService.planErrors .standard = [])
  have hconfig : Config.standard.fault? = none := by decide +kernel
  obtain ⟨-, caching, tracing, hcaching, htracing, hitems, hlines⟩ :=
    items_complete hplan .standard
  refine ⟨_, hplan, caching, tracing, hcaching, htracing, hitems.trans ?_, ?_⟩
  · rfl
  · rw [hitems, hlines hconfig]

end ContractPlan

end PolicyWeave
