import PolicyWeave.Proofs.Source.LegalNames
import PolicyWeave.Proofs.Source.Scope
import PolicyWeave.Proofs.Source.Writing
import PolicyWeave.Proofs.Text.Words

/-!
# Spelling of bodies

The names of a file are listed for each kind of data that a file is made of.
Here the list is compared with code, read word by word, up to the bodies of
methods.

* `Code.words` are the words of code, and `Code.words_text` finds them in its
  text.
* `Names.vocabulary` are the words that a file uses and names nothing by.
* Some texts are written as they are: literals, numbers, types and paths.
  One function for each kind of data lists them.
* `Spells` compares words with names, the vocabulary and texts.  The lemmas
  beside it put words together.
* One lemma for each kind of data compares the words of its code.  The words
  of the fixed parts are computed by `simp +ground`.
-/

namespace PolicyWeave

/-! ## Words of code -/

namespace Text

theorem wordsOf_unlines (ls : List (List Char)) :
    wordsOf (unlines ls) = ls.flatMap wordsOf := by
  induction ls with
  | nil => simp
  | cons line ls ih =>
    have htext : unlines (line :: ls) = line ++ '\n' :: unlines ls := by
      simp [unlines]
    rw [htext, wordsOf_append_cons (by decide), ih, List.flatMap_cons]

/-- A line end parts words. -/
theorem flatMap_wordsOf_splitOn (cs : List Char) :
    (splitOn '\n' cs).flatMap wordsOf = wordsOf cs := by
  rw [← wordsOf_unlines, unlines_splitOn, wordsOf_append_cons (by decide)]
  simp

/-- An indent has no words. -/
theorem wordsOf_replicate_append (n : Nat) (cs : List Char) :
    wordsOf (List.replicate n ' ' ++ cs) = wordsOf cs := by
  induction n with
  | zero => rfl
  | succ n ih =>
    rw [List.replicate_succ, List.cons_append, wordsOf_cons (by decide), ih]

@[simp] theorem wordsOf_placed (depth : Nat) (line : List Char) :
    wordsOf (Writer.placed depth line) = wordsOf line := by
  cases line with
  | nil => rfl
  | cons c cs => exact wordsOf_replicate_append _ _

end Text

namespace Code

/-- The words of code. -/
def words (cs : List Code) : List String := (lines cs).flatMap Text.wordsOf

/-- They are the words of its text. -/
theorem words_text (cs : List Code) : Text.words (text cs) = words cs := by
  rw [Text.words, text_eq, String.toList_ofList, Text.wordsOf_unlines, words]

@[simp] theorem words_nil : words [] = [] := rfl

@[simp] theorem words_append (cs ds : List Code) :
    words (cs ++ ds) = words cs ++ words ds := by
  rw [words, lines_append, List.flatMap_append]
  rfl

theorem words_cons (c : Code) (cs : List Code) :
    words (c :: cs) = words [c] ++ words cs :=
  words_append [c] cs

@[simp] theorem words_line (text : String) (cs : List Code) :
    words (line text :: cs) = Text.words text ++ words cs := by
  rw [words_cons]
  simp [words, lines, pieceLines, Text.flatMap_wordsOf_splitOn, Text.words]

@[simp] theorem words_blank (cs : List Code) :
    words (blank :: cs) = words cs := by
  rw [words_cons]
  simp [words, lines, pieceLines]

/-- An empty line at the end has no words. -/
@[simp] theorem words_pair_blank (c : Code) : words [c, blank] = words [c] := by
  rw [words_cons, words_blank, words_nil, List.append_nil]

@[simp] theorem words_block (head : String) (body : List Code) (tail : String)
    (cs : List Code) :
    words (block head body tail :: cs)
      = Text.words head ++ words body ++ Text.words tail ++ words cs := by
  rw [words_cons]
  simp [words, lines, pieceLines, Text.flatMap_wordsOf_splitOn, Text.words,
    List.flatMap_map]

@[simp] theorem words_deeper (body cs : List Code) :
    words (deeper body :: cs) = words body ++ words cs := by
  rw [words_cons]
  simp [words, lines, pieceLines, List.flatMap_map]

theorem words_flatMap {α : Type} (f : α → List Code) (as : List α) :
    words (as.flatMap f) = as.flatMap fun a => words (f a) := by
  induction as with
  | nil => rfl
  | cons a as ih => simp [ih]

theorem words_map {α : Type} (f : α → Code) (as : List α) :
    words (as.map f) = as.flatMap fun a => words [f a] := by
  rw [List.map_eq_flatMap, words_flatMap]

theorem words_spaced (css : List (List Code)) :
    words (spaced css) = css.flatMap words := by
  induction css using spaced.induct with
  | case1 => rfl
  | case2 cs => simp [spaced]
  | case3 cs ds rest ih => simp [spaced, ih]

end Code

/-! ## Vocabulary -/

namespace Names

/-- The words that a file uses of the language. -/
def language : List String :=
  ["async", "await", "const", "dyn", "fn", "for", "impl", "let", "move",
    "pub", "self", "Self", "static", "struct", "type"]

/-- The words that a file uses of libraries. -/
def library : List String :=
  ["Arc", "CacheLayer", "CacheSettings", "DelegatorBuilder", "Duration",
    "Empty", "Fn", "Result", "Send", "String", "Sync", "base64_json", "clone",
    "field", "format", "from", "from_millis", "info_span", "json", "keys",
    "lower", "new", "segment", "sha256", "std", "time", "trace", "traced",
    "tracing", "upper", "vec"]

/-- The words of remarks. -/
def remarks : List String :=
  ["Ordered", "The", "decorator", "factory", "first", "is", "layer",
    "outermost", "registered", "stack", "the"]

/-- The words that a file uses and names nothing by. -/
def vocabulary : List String := language ++ library ++ remarks

/-- All words of the vocabulary but those of the language are legal names. -/
theorem legalName_of_mem_vocabulary {w : String}
    (h : w ∈ library ++ remarks) : Text.LegalName w := by
  have hall : ∀ w ∈ library ++ remarks, Text.isIdentifier w = true
      ∧ w ∉ Text.reservedWords ∧ w ≠ "_" := by decide +kernel
  obtain ⟨hidentifier, hreserved, hblank⟩ := hall w h
  exact ⟨hidentifier, hreserved, hblank⟩

end Names

/-! ## Texts that are written as they are -/

/-- The literal in the expression of a key. -/
def KeyTemplate.quoted (k : KeyTemplate) : String :=
  if k.isLiteral then
    Text.literal (String.join (k.segments.map Segment.literalText))
  else Text.literal (String.ofList (k.segments.flatMap Segment.formatPart))

/-- The texts in the expression of a key. -/
def KeyTemplate.texts (runtime : String) (k : KeyTemplate) : List String :=
  [k.quoted, runtime]

/-- The texts in what a binding is bound to. -/
def BoundValue.texts (runtime : String) : BoundValue → List String
  | .key k => k.texts runtime
  | .keys ks => ks.flatMap (KeyTemplate.texts runtime)
  | .span name _ => [Text.literal name, runtime]
  | _ => []

/-- The texts in a binding. -/
def Binding.texts (runtime : String) (b : Binding) : List String :=
  b.value.texts runtime

/-- The texts in a closing expression. -/
def Tail.texts (runtime : String) : Tail → List String
  | .evictOnSuccess label => [Text.literal label]
  | .traced _ _ => [runtime]
  | .populate _ _ loader _ _ => loader.flatMap (Binding.texts runtime)
  | _ => []

/-- The texts in a body. -/
def Body.texts (runtime : String) (b : Body) : List String :=
  b.bindings.flatMap (Binding.texts runtime) ++ b.tail.texts runtime

/-! ## Spelling -/

/-- Whether words are those of a list of names, of the vocabulary and of
texts, and all names are among them. -/
structure Spells (names texts ws : List String) : Prop where
  written : ∀ name ∈ names, name ∈ ws
  known : ∀ w ∈ ws,
    w ∈ names ∨ w ∈ Names.vocabulary ∨ ∃ text ∈ texts, w ∈ Text.words text

namespace Spells

variable {α : Type} {names names' texts texts' ws ws' : List String}

theorem nil : Spells [] [] [] := ⟨by simp, by simp⟩

theorem append (h : Spells names texts ws) (h' : Spells names' texts' ws') :
    Spells (names ++ names') (texts ++ texts') (ws ++ ws') := by
  refine ⟨fun name hname => ?_, fun w hw => ?_⟩
  · rcases List.mem_append.mp hname with hname | hname
    · exact List.mem_append_left _ (h.written name hname)
    · exact List.mem_append_right _ (h'.written name hname)
  · rcases List.mem_append.mp hw with hw | hw
    · obtain hname | hvocabulary | ⟨text, htext, hw⟩ := h.known w hw
      · exact .inl (List.mem_append_left _ hname)
      · exact .inr (.inl hvocabulary)
      · exact .inr (.inr ⟨text, List.mem_append_left _ htext, hw⟩)
    · obtain hname | hvocabulary | ⟨text, htext, hw⟩ := h'.known w hw
      · exact .inl (List.mem_append_right _ hname)
      · exact .inr (.inl hvocabulary)
      · exact .inr (.inr ⟨text, List.mem_append_right _ htext, hw⟩)

theorem ite {present : Bool} (h : present = true → Spells names texts ws) :
    Spells (if present then names else []) (if present then texts else [])
      (if present then ws else []) := by
  cases present with
  | false => exact nil
  | true => exact h rfl

theorem flatMap {namesOf textsOf wordsOf : α → List String} {as : List α}
    (h : ∀ a ∈ as, Spells (namesOf a) (textsOf a) (wordsOf a)) :
    Spells (as.flatMap namesOf) (as.flatMap textsOf)
      (as.flatMap wordsOf) := by
  induction as with
  | nil => exact nil
  | cons a as ih =>
    obtain ⟨ha, has⟩ := List.forall_mem_cons.mp h
    exact ha.append (ih has)

/-- A word of the vocabulary may stand in front. -/
theorem cons {w : String} (hw : w ∈ Names.vocabulary)
    (h : Spells names texts ws) : Spells names texts (w :: ws) := by
  refine ⟨fun name hname => ?_, fun v hv => ?_⟩
  · exact List.mem_cons_of_mem w (h.written name hname)
  · rcases List.mem_cons.mp hv with rfl | hv
    · exact .inr (.inl hw)
    · exact h.known v hv

theorem name (name : String) : Spells [name] [] [name] :=
  ⟨by simp, by simp⟩

/-- A text spells itself. -/
theorem text (text : String) : Spells [] [text] (Text.words text) :=
  ⟨by simp, by simp +contextual⟩

/-- The names may be listed in another way. -/
theorem congr (h : Spells names texts ws)
    (hnames : ∀ name, name ∈ names ↔ name ∈ names') :
    Spells names' texts ws := by
  refine ⟨fun name hname => ?_, fun w hw => ?_⟩
  · exact h.written name ((hnames name).mpr hname)
  · exact (h.known w hw).imp_left (hnames w).mp

/-- Texts may be exchanged for others with their words. -/
theorem mono (h : Spells names texts ws)
    (htexts : ∀ text ∈ texts, ∀ w ∈ Text.words text,
      ∃ text' ∈ texts', w ∈ Text.words text') :
    Spells names texts' ws := by
  refine ⟨h.written, fun w hw => ?_⟩
  obtain hname | hvocabulary | ⟨text, htext, hw⟩ := h.known w hw
  · exact .inl hname
  · exact .inr (.inl hvocabulary)
  · exact .inr (.inr (htexts text htext w hw))

end Spells

/-! ### Keys -/

theorem FieldPath.words_text {p : FieldPath}
    (h : ∀ name ∈ p.names, Text.isIdentifier name = true) :
    Text.words p.text = p.names := by
  rw [text, Text.words_intercalate (by decide) (by decide) (by decide)]
  exact Text.flatMap_words_identifiers h

/-- The separators at the end of a path are no words. -/
theorem Text.wordsOf_trimSeparators (cs : List Char) :
    Text.wordsOf (trimSeparators cs) = Text.wordsOf cs := by
  have hgo : ∀ ds, wordsOf (trimSeparators.go ds).reverse
      = wordsOf ds.reverse := by
    intro ds
    induction ds using trimSeparators.go.induct with
    | case1 rest ih =>
      have hcolon : isIdentRest ':' = false := by decide
      rw [trimSeparators.go, ih]
      simp [wordsOf_append_cons hcolon, wordsOf_cons hcolon]
    | case2 ds hds => rw [trimSeparators.go.eq_2 ds hds]
  simpa [trimSeparators] using hgo cs.reverse

section

variable {runtime : String}

/-- The words of the operand of a key function. -/
theorem Segment.words_operandText {ps : List FieldPath}
    (h : ∀ name ∈ ps.flatMap FieldPath.names,
      Text.isIdentifier name = true) :
    Text.words (operandText ps) = ps.flatMap FieldPath.names := by
  have hpaths : ∀ p ∈ ps, Text.words p.text = p.names := fun p hp =>
    FieldPath.words_text fun name hname =>
      h name (List.mem_flatMap.mpr ⟨p, hp, hname⟩)
  unfold operandText
  split
  · simp +ground
  · simp +ground [hpaths]
  · rw [← List.flatMap_congr hpaths]
    simp +ground [String.append_assoc, List.flatMap_map]

/-- The words of the argument of a key segment. -/
theorem Segment.spells_argument? (s : Segment)
    (h : ∀ name ∈ s.paths.flatMap FieldPath.names,
      Text.isIdentifier name = true) :
    Spells (s.paths.flatMap FieldPath.names) [runtime]
      ((s.argument? runtime).toList.flatMap Text.words) := by
  cases s with
  | literal s => exact ⟨by simp [paths], by simp [argument?]⟩
  | field p =>
    have hwords : Text.words p.text = p.names :=
      FieldPath.words_text (by simpa [paths] using h)
    have hall : Text.words (runtime ++ "::keys::segment(&" ++ p.text ++ ")")
        = Text.words runtime ++ "keys" :: "segment" :: p.names := by
      simp +ground [String.append_assoc, hwords]
    rw [argument?, Option.toList_some, List.flatMap_singleton, hall]
    refine ⟨?_, ?_⟩
    · simp +contextual [paths]
    · simp +decide +contextual [paths, or_imp]
  | builtin name f args =>
    have hname : Text.words f.name = [f.name] := by cases f <;> decide
    have hmem : f.name ∈ Names.vocabulary := by cases f <;> decide
    have hwords : Text.words (operandText args)
        = args.flatMap FieldPath.names :=
      words_operandText (by simpa [paths] using h)
    have hall : Text.words
        (runtime ++ "::keys::" ++ f.name ++ "(" ++ operandText args ++ ")")
        = Text.words runtime ++ "keys" :: f.name
          :: args.flatMap FieldPath.names := by
      simp +ground [String.append_assoc, hwords, hname]
    rw [argument?, Option.toList_some, List.flatMap_singleton, hall]
    refine ⟨?_, ?_⟩
    · simp +contextual [paths]
    · simp +decide +contextual [paths, or_imp, hmem]

theorem KeyTemplate.spells_arguments (k : KeyTemplate)
    (h : ∀ name ∈ k.names, Text.isIdentifier name = true) :
    Spells k.names [runtime]
      ((k.segments.filterMap (Segment.argument? runtime)).flatMap
        Text.words) := by
  have hsegments : Spells
      (k.segments.flatMap fun s => s.paths.flatMap FieldPath.names)
      (k.segments.flatMap fun _ => [runtime])
      (k.segments.flatMap fun s =>
        (s.argument? runtime).toList.flatMap Text.words) :=
    .flatMap fun s hs => s.spells_argument? fun name hname =>
      h name (by
        rw [names, paths, List.flatMap_assoc]
        exact List.mem_flatMap.mpr ⟨s, hs, hname⟩)
  rw [names, paths, List.flatMap_assoc, List.filterMap_eq_flatMap_toList,
    List.flatMap_assoc]
  exact hsegments.mono (by simp +contextual)

/-- The words of the expression of a key. -/
theorem KeyTemplate.spells_expression (k : KeyTemplate)
    (h : ∀ name ∈ k.names, Text.isIdentifier name = true) :
    Spells k.names (k.texts runtime)
      (Text.words (k.expression runtime)) := by
  have htrim : Text.words (String.ofList (trimSeparators runtime.toList))
      = Text.words runtime := by
    rw [Text.words, String.toList_ofList, Text.wordsOf_trimSeparators,
      Text.words]
  have hargs := (Spells.text k.quoted).append (@k.spells_arguments
    (String.ofList (trimSeparators runtime.toList)) h)
  have hargs : Spells k.names (k.texts runtime) _ :=
    hargs.mono (by simp +contextual [texts, htrim])
  unfold expression
  cases hliteral : k.isLiteral with
  | true =>
    have hquoted : Text.literal (String.join
        (k.segments.map Segment.literalText)) = k.quoted := by
      rw [quoted, if_pos hliteral]
    have hnone : k.segments.filterMap (Segment.argument?
        (String.ofList (trimSeparators runtime.toList))) = [] := by
      refine List.filterMap_eq_nil_iff.mpr fun s hs => ?_
      have hs := List.all_eq_true.mp hliteral s hs
      cases s <;> simp_all [Segment.isLiteral, Segment.argument?]
    rw [hnone] at hargs
    have hall : Spells k.names (k.texts runtime)
        ("String" :: "from" :: (Text.words k.quoted ++ [])) :=
      .cons (by decide) (.cons (by decide) hargs)
    rw [if_pos rfl, hquoted]
    simpa +ground [String.append_assoc] using hall
  | false =>
    have hquoted : Text.literal (String.ofList
        (k.segments.flatMap Segment.formatPart)) = k.quoted := by
      rw [quoted, if_neg (by simp [hliteral])]
    have hall : Spells k.names (k.texts runtime) ("format" :: _) :=
      .cons (by decide) hargs
    rw [if_neg (by simp), hquoted]
    simpa +ground [String.append_assoc] using hall

/-! ### Calls and bindings -/

theorem words_commaList {items : List String} :
    Text.words (commaList items) = items.flatMap Text.words :=
  Text.words_intercalate (by decide) (by decide) (by decide) items

/-- The words of a call of the inner implementation. -/
theorem words_forwardText {method : String} {args : List String}
    (h : ∀ name ∈ method :: args, Text.isIdentifier name = true) :
    Text.words (forwardText method args)
      = "self" :: "inner" :: method :: args := by
  obtain ⟨hmethod, hargs⟩ := List.forall_mem_cons.mp h
  simp +ground [forwardText, String.append_assoc, words_commaList, hmethod,
    Text.flatMap_words_identifiers hargs]

/-- The words of a list of keys to evict. -/
theorem spells_evictListCode {ks : List KeyTemplate}
    (h : ∀ name ∈ ks.flatMap KeyTemplate.names,
      Text.isIdentifier name = true) :
    Spells (Names.evict :: ks.flatMap KeyTemplate.names)
      (ks.flatMap (KeyTemplate.texts runtime))
      (Code.words [evictListCode runtime ks]) := by
  have hkeys : Spells (ks.flatMap KeyTemplate.names)
      (ks.flatMap (KeyTemplate.texts runtime))
      (ks.flatMap fun k => Text.words (k.expression runtime)) :=
    .flatMap fun k hk => k.spells_expression fun name hname =>
      h name (List.mem_flatMap.mpr ⟨k, hk, hname⟩)
  have hwords : Code.words [evictListCode runtime ks]
      = ["let", Names.evict, "vec"]
        ++ ks.flatMap fun k => Text.words (k.expression runtime) := by
    simp +ground [evictListCode, Code.words_map]
  have hhead : Spells [Names.evict] [] ["let", Names.evict, "vec"] :=
    ⟨by simp, by decide⟩
  rw [hwords]
  exact hhead.append hkeys

/-- A binding of keys has the name under which they are evicted. -/
def Binding.Fits (b : Binding) : Prop :=
  ∀ ks, b.value = .keys ks → b.name = Names.evict

/-- The words of a binding. -/
theorem Binding.spells_code {b : Binding} (hfits : b.Fits)
    (h : ∀ name ∈ b.names, Text.isIdentifier name = true) :
    Spells b.names (b.texts runtime) (Code.words [b.code runtime]) := by
  obtain ⟨name, value⟩ := b
  obtain ⟨hname, hvalue⟩ := List.forall_mem_cons.mp h
  cases value with
  | key k =>
    have hkey : Spells k.names (k.texts runtime) _ :=
      k.spells_expression hvalue
    have hhead : Spells [name] [] ["let", name] :=
      ⟨by simp, by simp +decide⟩
    simpa +ground [code, texts, BoundValue.texts, BoundValue.names,
      String.append_assoc, hname] using hhead.append hkey
  | keys ks =>
    obtain rfl := hfits ks rfl
    exact spells_evictListCode hvalue
  | innerField =>
    have hwords : Code.words [code runtime ⟨name, .innerField⟩]
        = ["let", name, "Arc", "clone", "self", "inner"] := by
      simp +ground [code, String.append_assoc, hname]
    rw [hwords]
    exact ⟨by simp [BoundValue.names], by simp +decide [BoundValue.names]⟩
  | sharedCopy other =>
    obtain ⟨hother, -⟩ := List.forall_mem_cons.mp hvalue
    have hwords : Code.words [code runtime ⟨name, .sharedCopy other⟩]
        = ["let", name, "Arc", "clone", other] := by
      simp +ground [code, String.append_assoc, hname, hother]
    rw [hwords]
    exact ⟨by simp [BoundValue.names], by simp +decide [BoundValue.names]⟩
  | ownedCopy other =>
    obtain ⟨hother, -⟩ := List.forall_mem_cons.mp hvalue
    have hwords : Code.words [code runtime ⟨name, .ownedCopy other⟩]
        = ["let", name, other, "to_owned"] := by
      simp +ground [code, String.append_assoc, hname, hother]
    rw [hwords]
    exact ⟨by simp [BoundValue.names], by simp +decide [BoundValue.names]⟩
  | clone other =>
    obtain ⟨hother, -⟩ := List.forall_mem_cons.mp hvalue
    have hwords : Code.words [code runtime ⟨name, .clone other⟩]
        = ["let", name, other, "clone"] := by
      simp +ground [code, String.append_assoc, hname, hother]
    rw [hwords]
    exact ⟨by simp [BoundValue.names], by simp +decide [BoundValue.names]⟩
  | forwardedCall method args =>
    obtain ⟨-, hcall⟩ := List.forall_mem_cons.mp hvalue
    have hcall := words_forwardText hcall
    have hwords : Code.words [code runtime ⟨name, .forwardedCall method args⟩]
        = "let" :: name :: "self" :: "inner" :: method :: args
          ++ ["await"] := by
      simp +ground [code, String.append_assoc, hname, hcall]
    rw [hwords]
    refine ⟨?_, ?_⟩
    · simp +contextual [BoundValue.names]
    · simp +decide +contextual [BoundValue.names, or_imp]
  | span label attributes =>
    obtain ⟨hattributes, -⟩ := List.forall_mem_append.mp hvalue
    have hfields : Code.words (attributes.map fun a =>
        .line (a ++ (" = ?" ++ (a ++ ","))))
        = attributes.flatMap fun a => [a, a] := by
      rw [Code.words_map]
      refine List.flatMap_congr fun a ha => ?_
      simp +ground [hattributes a ha]
    have hwords : Code.words [code runtime ⟨name, .span label attributes⟩]
        = "let" :: name :: Text.words runtime ++ "tracing" :: "info_span"
          :: Text.words (Text.literal label)
          ++ (attributes.flatMap fun a => [a, a])
          ++ "otel" :: "status_code" :: Text.words runtime
          ++ ["tracing", "field", "Empty"] := by
      simp +ground [code, String.append_assoc, hname, hfields]
    rw [hwords]
    refine ⟨?_, ?_⟩
    · simp +contextual [BoundValue.names, or_imp]
    · simp +decide +contextual [BoundValue.names, texts, BoundValue.texts,
        or_imp]

/-! ### Bodies -/

theorem Argument.words_text {a : Argument}
    (h : Text.isIdentifier a.name = true) : Text.words a.text = [a.name] := by
  obtain ⟨name, passing⟩ := a
  cases passing <;> simp +ground [text, h]

/-- The words in front of a loader. -/
theorem spells_populateHead (settings : String) (evicting : Bool) :
    Spells
      ("layer" :: settings :: Names.key
        :: if evicting then ["get_or_populate_and_evict", Names.evict]
          else ["get_or_populate"]) []
      ("self" :: "layer"
        :: (if evicting then
            ["get_or_populate_and_evict", settings, Names.key, Names.evict]
          else ["get_or_populate", settings, Names.key])
        ++ ["move"]) := by
  cases evicting <;> exact ⟨by simp, by simp +decide⟩

/-- The words of the call in a loader. -/
theorem spells_loaderCall (names : List String) :
    Spells names [] ("async" :: "move" :: names ++ ["await", "await"]) := by
  refine ⟨?_, ?_⟩
  · simp +contextual
  · simp +decide +contextual [or_imp]

/-- The words of a closing expression with a loader. -/
theorem Tail.spells_populate {settings method : String} {evicting : Bool}
    {loader : List Binding} {args : List Argument}
    (hfits : ∀ b ∈ loader, b.Fits)
    (h : ∀ name ∈ (populate settings evicting loader method args).names,
      Text.isIdentifier name = true) :
    Spells (populate settings evicting loader method args).names
      (loader.flatMap (Binding.texts runtime))
      (Code.words (code runtime
        (.populate settings evicting loader method args))) := by
  have hloader : Spells (loader.flatMap Binding.names)
      (loader.flatMap (Binding.texts runtime))
      (loader.flatMap fun b => Code.words [b.code runtime]) :=
    .flatMap fun b hb => Binding.spells_code (hfits b hb) fun name hname =>
      h name (by
        refine List.mem_append_left _ (List.mem_append_right _ ?_)
        exact List.mem_flatMap.mpr ⟨b, hb, hname⟩)
  have hsettings : Text.isIdentifier settings = true := h _ (by simp [names])
  have hmethod : Text.isIdentifier method = true := h _ (by simp [names])
  have hargs : args.flatMap (fun a => Text.words a.text)
      = args.map Argument.name := by
    rw [List.map_eq_flatMap]
    refine List.flatMap_congr fun a ha => Argument.words_text (h _ ?_)
    refine List.mem_append_right _ (List.mem_cons_of_mem _ ?_)
    exact List.mem_cons_of_mem _ (List.mem_map_of_mem ha)
  have hwords : Code.words (code runtime
        (.populate settings evicting loader method args))
      = "self" :: "layer"
          :: (if evicting then
              ["get_or_populate_and_evict", settings, Names.key,
                Names.evict]
            else ["get_or_populate", settings, Names.key])
          ++ ["move"]
        ++ (loader.flatMap fun b => Code.words [b.code runtime])
        ++ ("async" :: "move" :: Names.inner :: method
          :: args.map Argument.name ++ ["await", "await"]) := by
    cases evicting <;>
      simp +ground [code, String.append_assoc, hsettings, hmethod,
        words_commaList, List.flatMap_map, hargs, Code.words_map]
  rw [hwords]
  simpa [names] using
    ((spells_populateHead settings evicting).append hloader).append
      (spells_loaderCall (Names.inner :: method :: args.map Argument.name))

/-- The words of a closing expression. -/
theorem Tail.spells_code {t : Tail} (hfits : ∀ b ∈ t.loader, b.Fits)
    (h : ∀ name ∈ t.names, Text.isIdentifier name = true) :
    Spells t.names (t.texts runtime) (Code.words (t.code runtime)) := by
  cases t with
  | forward method args =>
    obtain ⟨-, hcall⟩ := List.forall_mem_cons.mp h
    have hwords : Code.words (code runtime (.forward method args))
        = "self" :: "inner" :: method :: args ++ ["await"] := by
      simp +ground [code, words_forwardText hcall]
    rw [hwords]
    refine ⟨?_, ?_⟩
    · simp +contextual [names]
    · simp +decide +contextual [names, or_imp]
  | evictOnSuccess label =>
    have hwords : Code.words (code runtime (.evictOnSuccess label))
        = ["self", "layer", "evict_on_success"]
          ++ Text.words (Text.literal label)
          ++ [Names.evict, Names.result, "await"] := by
      simp +ground [code, evictOnSuccessCode, String.append_assoc]
    rw [hwords]
    refine ⟨?_, ?_⟩
    · simp [names]
    · simp +decide +contextual [names, texts, or_imp]
  | traced method args =>
    obtain ⟨-, hcall⟩ := List.forall_mem_cons.mp h
    obtain ⟨-, hcall⟩ := List.forall_mem_cons.mp hcall
    have hwords : Code.words (code runtime (.traced method args))
        = Text.words runtime
          ++ "trace" :: "traced" :: Names.span :: "self" :: "inner" :: method
            :: args ++ ["await"] := by
      simp +ground [code, String.append_assoc, words_forwardText hcall]
    rw [hwords]
    refine ⟨?_, ?_⟩
    · simp +contextual [names]
    · simp +decide +contextual [names, texts, or_imp]
  | populate settings evicting loader method args =>
    exact spells_populate hfits h

/-- Whether all bindings of a body fit. -/
def Body.Fits (b : Body) : Prop :=
  ∀ x ∈ b.bindings ++ b.tail.loader, x.Fits

/-- The words of a body. -/
theorem Body.spells_code {b : Body} (hfits : b.Fits)
    (h : ∀ name ∈ b.names, Text.isIdentifier name = true) :
    Spells b.names (b.texts runtime) (Code.words (b.code runtime)) := by
  obtain ⟨hbindings, htail⟩ := List.forall_mem_append.mp hfits
  obtain ⟨hnames, htailNames⟩ := List.forall_mem_append.mp h
  have hspells : Spells (b.bindings.flatMap Binding.names)
      (b.bindings.flatMap (Binding.texts runtime))
      (b.bindings.flatMap fun x => Code.words [x.code runtime]) :=
    .flatMap fun x hx => Binding.spells_code (hbindings x hx)
      fun name hname => hnames name (List.mem_flatMap.mpr ⟨x, hx, hname⟩)
  rw [code, Code.words_append, Code.words_map]
  exact hspells.append (Tail.spells_code htail htailNames)

end

end PolicyWeave
