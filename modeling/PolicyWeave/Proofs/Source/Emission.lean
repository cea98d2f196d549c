import Mathlib.Data.List.Basic
import PolicyWeave.Source.Emission
import PolicyWeave.Source.File

/-!
# Emitted code

What the emitters write is code: their steps are those of trees, so each
block that they open is closed again by the emitter that opened it.

* `Code.stepsOf_append` and the lemmas beside it give the steps of trees that
  are built from lists.
* One lemma for each emitter names its tree.
* `ContractPlan.emitFile_eq` and `ContractPlan.render_eq` put them together to
  a file.
-/

namespace PolicyWeave

/-! ## Steps of trees -/

namespace Code

variable {α : Type}

@[simp] theorem stepsOf_nil : stepsOf [] = [] := rfl

@[simp] theorem stepsOf_cons (c : Code) (cs : List Code) :
    stepsOf (c :: cs) = steps c ++ stepsOf cs := rfl

@[simp] theorem stepsOf_append (cs ds : List Code) :
    stepsOf (cs ++ ds) = stepsOf cs ++ stepsOf ds := by
  induction cs with
  | nil => rfl
  | cons c cs ih => simp [ih]

theorem stepsOf_flatMap (f : α → List Code) (as : List α) :
    stepsOf (as.flatMap f) = as.flatMap fun a => stepsOf (f a) := by
  induction as with
  | nil => rfl
  | cons a as ih => simp [ih]

theorem stepsOf_map_line (f : α → String) (as : List α) :
    stepsOf (as.map fun a => line (f a))
      = as.map fun a => .line (f a) := by
  induction as with
  | nil => rfl
  | cons a as ih => simp [steps, ih]

/-- The steps of a group of code at a place, as `spaced` parts the groups. -/
def stepsAt (cs : List Code) (place : Nat) : List WriterStep :=
  (if 0 < place then [.blank] else []) ++ stepsOf cs

/-- Groups that are spaced are written one by one.  All but the first have an
empty line in front. -/
theorem stepsOf_spaced (css : List (List Code)) :
    stepsOf (spaced css) = css.zipIdx.flatMap fun x => stepsAt x.1 x.2 := by
  have hbehind : ∀ (css : List (List Code)) (cs : List Code) (k : Nat),
      stepsOf (spaced (cs :: css))
        = stepsOf cs ++ (css.zipIdx (k + 1)).flatMap fun x =>
            stepsAt x.1 x.2 := by
    intro css
    induction css with
    | nil => simp [spaced]
    | cons ds css ih =>
      intro cs k
      simp [spaced, steps, ih ds (k + 1), stepsAt, List.zipIdx_cons]
  cases css with
  | nil => rfl
  | cons cs css => simp [hbehind css cs 0, stepsAt, List.zipIdx_cons]

end Code

/-! ## Evictions -/

theorem emitEvictList_eq (runtime : String) (ks : List KeyTemplate) :
    emitEvictList runtime ks = Code.stepsOf [evictListCode runtime ks] := by
  simp [emitEvictList, evictListCode, Code.steps, Code.stepsOf_map_line]

theorem emitEvictOnSuccess_eq (label : String) :
    emitEvictOnSuccess label = Code.stepsOf (evictOnSuccessCode label) := rfl

/-! ## Functions of an implementation -/

theorem emitFunctions_eq {runtime : String}
    {emitBody : MethodPlan → List WriterStep} {body : MethodPlan → Body}
    (h : ∀ m, emitBody m = Code.stepsOf ((body m).code runtime))
    (ms : List MethodPlan) :
    emitFunctions emitBody ms
      = Code.stepsOf (Code.spaced
          ((ms.map fun m => (m.method, body m)).map
            (functionCode runtime))) := by
  rw [emitFunctions, Code.stepsOf_spaced, List.map_map, List.zipIdx_map,
    List.flatMap_map]
  refine List.flatMap_congr fun x _ => ?_
  simp [emitFunction, Code.stepsAt, functionCode, Code.steps, h]

/-! ## The caching decorator -/

theorem emitSettings_eq (runtime contract : String) (m : MethodPlan)
    (cache : CachePlan) :
    emitSettings runtime contract m cache
      = Code.stepsOf
          [SettingsConstant.code runtime
            ⟨Names.settings contract m.method.name, m.label contract,
              cache⟩] := by
  simp [emitSettings, SettingsConstant.code, Code.steps, String.append_assoc]

/-- The bindings of captured parameters are written one by one. -/
theorem stepsOf_capturedParams (runtime : String) (m : Method) :
    Code.stepsOf ((capturedParams m).map (Binding.code runtime))
      = m.params.flatMap fun q =>
          if Passing.of q == .shared then
            [.line ("let " ++ q.name ++ " = " ++ q.name ++ ".to_owned();")]
          else [] := by
  rw [capturedParams, List.map_map]
  induction m.params with
  | nil => rfl
  | cons q qs ih =>
    rw [List.flatMap_cons, ← ih, List.filter_cons]
    split <;> simp [Binding.code, Code.steps]

theorem emitPopulate_eq (runtime contract : String) (m : Method)
    (cache : CachePlan) (evicting : Bool) :
    emitPopulate runtime contract m cache evicting
      = Code.stepsOf (Body.code runtime
          ⟨⟨Names.key, .key cache.key⟩ :: ⟨Names.inner, .innerField⟩
              :: capturedParams m,
            .populate (Names.settings contract m.name) evicting
              (loaderBindings m) m.name (loaderArguments m)⟩) := by
  cases evicting <;>
    simp [emitPopulate, Body.code, Tail.code, stepsOf_capturedParams,
      Code.steps, Code.stepsOf_map_line, loaderBindings, loaderArguments,
      Binding.code, Names.key, Names.inner, Names.evict, Function.comp_def,
      String.append_assoc]

theorem emitCacheBody_eq (runtime contract : String) (m : MethodPlan) :
    emitCacheBody runtime contract m
      = Code.stepsOf ((cacheBody contract m).code runtime) := by
  cases hcache : m.cache with
  | some cache =>
    cases hevict : m.evict with
    | some ks =>
      simp [emitCacheBody, cacheBody, hcache, hevict, emitPopulate_eq,
        emitEvictList_eq, Body.code, evictBinding, Binding.code]
    | none =>
      simp [emitCacheBody, cacheBody, hcache, hevict, emitPopulate_eq,
        Body.code]
  | none =>
    cases hevict : m.evict with
    | some ks =>
      simp [emitCacheBody, cacheBody, hcache, hevict, emitEvictList_eq,
        emitEvictOnSuccess_eq, Body.code, evictBinding, Binding.code,
        Tail.code, Method.forwardCall, Code.steps, Names.result,
        String.append_assoc]
    | none =>
      simp [emitCacheBody, cacheBody, hcache, hevict, forwardBody, Body.code,
        Tail.code, Method.forwardCall, Code.steps]

namespace ContractPlan

/-- The settings of the cached methods are written one by one. -/
theorem emitConstants_eq (runtime : String) (p : ContractPlan) :
    p.emitConstants runtime
      = Code.stepsOf ((cacheDecorator p).settings.flatMap fun s =>
          [s.code runtime, .blank]) := by
  rw [emitConstants, cacheDecorator, Code.stepsOf_flatMap]
  induction p.methods with
  | nil => rfl
  | cons m ms ih =>
    rw [List.flatMap_cons, ih]
    cases hcache : m.cache <;>
      simp [settingsConstant?, hcache, emitSettings_eq, Code.steps]

theorem emitCacheDecorator_eq (config : Config) (p : ContractPlan) :
    p.emitCacheDecorator config
      = Code.stepsOf ((cacheDecorator p).code config) := by
  have hfunctions := emitFunctions_eq
    (emitCacheBody_eq config.runtime p.contract.name) p.methods
  rw [emitCacheDecorator, emitConstants_eq, hfunctions, Decorator.code]
  simp only [cacheDecorator]
  generalize "Arc<dyn " ++ p.contract.name ++ ">" = shared
  simp [Code.steps, String.append_assoc]

end ContractPlan

/-! ## The tracing decorator -/

theorem emitTraceBody_eq (runtime : String) (m : MethodPlan) :
    emitTraceBody runtime m = Code.stepsOf ((traceBody m).code runtime) := by
  cases htrace : m.trace with
  | some trace =>
    simp [emitTraceBody, emitTracedBody, traceBody, htrace, Body.code,
      Tail.code, Binding.code, Code.steps, Code.stepsOf_map_line, Names.span,
      String.append_assoc]
  | none =>
    simp [emitTraceBody, traceBody, htrace, forwardBody, Body.code, Tail.code,
      Method.forwardCall, Code.steps]

namespace ContractPlan

theorem emitTraceDecorator_eq (config : Config) (p : ContractPlan) :
    p.emitTraceDecorator config
      = Code.stepsOf ((traceDecorator p).code config) := by
  have hfunctions :=
    emitFunctions_eq (emitTraceBody_eq config.runtime) p.methods
  simp [emitTraceDecorator, Decorator.code, hfunctions, traceDecorator,
    Code.steps, String.append_assoc]

/-! ## The decorator stack -/

theorem emitDelegator_eq (config : Config) (p : ContractPlan) :
    p.emitDelegator config
      = Code.stepsOf ((delegatorItems p).code config) := by
  simp [emitDelegator, delegatorItems, DelegatorItems.code,
    DelegatorItems.startCode, DelegatorItems.cacheFactoryCode,
    DelegatorItems.traceFactoryCode, DelegatorItems.shared,
    DelegatorItems.factoryType, Names.delegatorFunction, Names.cacheFactory,
    Names.traceFactory, Code.steps, apply_ite Code.stepsOf,
    String.append_assoc]

/-! ## Files -/

/-- A section that is there has an empty line in front. -/
theorem stepsOf_sectionCode {α : Type} (code : α → List Code)
    (present : Bool) (x : α) :
    Code.stepsOf (SourceFile.sectionCode code
        (if present then some x else none))
      = if present then .blank :: Code.stepsOf (code x) else [] := by
  cases present <;> rfl

/-- The steps of the file of a plan are those of its code. -/
theorem emitFile_eq (config : Config) (p : ContractPlan) :
    p.emitFile config
      = Code.stepsOf ((SourceFile.ofPlan config p).code config) := by
  simp [emitFile, SourceFile.code, SourceFile.ofPlan, SourceFile.preamble,
    stepsOf_sectionCode, emitCacheDecorator_eq, emitTraceDecorator_eq,
    emitDelegator_eq, Code.steps, Code.stepsOf_map_line]

/-- The text that is written for a plan is that of its file. -/
theorem render_eq (config : Config) (p : ContractPlan) :
    p.render config = (SourceFile.ofPlan config p).text config := by
  rw [render, emitFile_eq]
  rfl

end ContractPlan

end PolicyWeave
