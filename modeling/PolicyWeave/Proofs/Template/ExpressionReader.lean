import Mathlib.Data.List.Basic
import PolicyWeave.Proofs.Data.Lists
import PolicyWeave.Proofs.Template.KeyNames
import PolicyWeave.Proofs.Text.Identifier
import PolicyWeave.Proofs.Text.LiteralReader
import PolicyWeave.Template.Expression

/-!
# Reading key expressions

`KeyTemplate.expression` writes a key template as the text of an
expression.  This module reads such a text back.

There are four groups.

* `KeyExpression` is what the text says: a text of its own, or a format
  string with calls of key functions for its holes.
* `KeyExpression.read?` reads it, from places such as `req.user.id` up to
  the whole expression.
* `KeyTemplate.keyExpression` is the expression that a key template is
  meant to have, given without text.
* `KeyExpression.read?_expression`: reading what was written gives that
  expression.  It holds for key templates whose names are identifiers and
  for paths without an opening parenthesis, which planned contracts and
  checked settings guarantee.
-/

namespace PolicyWeave

/-! ## Expressions -/

/-- The operand of a key function: an array of nothing, a place, or a
tuple of two places or more. -/
inductive KeyOperand where
  | nothing
  | one (p : FieldPath)
  | tuple (ps : List FieldPath)

/-- A call of a key function. -/
structure KeyCall where
  callee : List Char
  operand : KeyOperand

/-- A key expression: a text, or a format string with its arguments. -/
inductive KeyExpression where
  | text (s : List Char)
  | format (pattern : List Char) (args : List KeyCall)

namespace KeyExpression

/-! ## The reader -/

/-- What follows a fixed text. -/
def after? (text : String) (cs : List Char) : Option (List Char) :=
  text.toList.isPrefixOf? cs

/-- A character of a place. -/
def isPlaceChar (c : Char) : Bool :=
  Text.isIdentRest c || c == '.'

/-- The field path of names. -/
def path? : List (List Char) → Option FieldPath
  | [] => none
  | root :: fields =>
    if (root :: fields).all Text.isIdentifierChars then
      some ⟨String.ofList root, fields.map String.ofList⟩
    else none

/-- The place at the front: names with points between them. -/
def place? (cs : List Char) : Option (FieldPath × List Char) :=
  (path? ((cs.takeWhile isPlaceChar).splitOn '.')).map fun p =>
    (p, cs.dropWhile isPlaceChar)

/-- The reference to a place at the front. -/
def reference? : List Char → Option (FieldPath × List Char)
  | '&' :: cs => place? cs
  | _ => none

/-- One item or more at the front, parted by commas.  An item takes at
least one character. -/
def separated? {α : Type} (item? : List Char → Option (α × List Char))
    (cs : List Char) : Option (List α × List Char) :=
  match item? cs with
  | none => none
  | some (a, ',' :: ' ' :: rest) =>
    if rest.length < cs.length then
      (separated? item? rest).map fun r => (a :: r.1, r.2)
    else none
  | some (a, rest) => some ([a], rest)
termination_by cs.length

/-- The operand at the front.  A tuple has two places or more. -/
def operand? (cs : List Char) : Option (KeyOperand × List Char) :=
  match after? "&[(); 0]" cs with
  | some rest => some (.nothing, rest)
  | none =>
    match after? "&(" cs with
    | none => (reference? cs).map fun r => (.one r.1, r.2)
    | some cs =>
      match separated? reference? cs with
      | some (p :: q :: ps, ')' :: rest) =>
        some (.tuple (p :: q :: ps), rest)
      | _ => none

/-- The call at the front: all up to the parenthesis is its callee. -/
def call? (cs : List Char) : Option (KeyCall × List Char) :=
  match cs.dropWhile (· != '(') with
  | [] => none
  | _ :: rest =>
    match operand? rest with
    | some (o, ')' :: rest) => some (⟨cs.takeWhile (· != '('), o⟩, rest)
    | _ => none

/-- The arguments of a format string, up to the end of the text. -/
def args? (cs : List Char) : Option (List KeyCall) :=
  match separated? call? cs with
  | some (args, [')']) => some args
  | _ => none

/-- The expression that a text writes. -/
def read? (cs : List Char) : Option KeyExpression :=
  match after? "String::from(" cs with
  | some rest =>
    match Text.readLiteral? rest with
    | some (s, [')']) => some (.text s)
    | _ => none
  | none =>
    match (after? "format!(" cs).bind Text.readLiteral? with
    | some (pattern, ',' :: ' ' :: rest) =>
      (args? rest).map (.format pattern)
    | _ => none

end KeyExpression

/-! ## The expression of a key template -/

/-- The operand of field paths. -/
def KeyOperand.ofPaths : List FieldPath → KeyOperand
  | [] => .nothing
  | [p] => .one p
  | ps => .tuple ps

/-- The name of a key function under the path of the runtime. -/
def keyCallee (runtime : List Char) (name : String) : List Char :=
  runtime ++ "::keys::".toList ++ name.toList

/-- The call that fills the hole of a segment. -/
def Segment.keyCall? (runtime : List Char) : Segment → Option KeyCall
  | .literal _ => none
  | .field p => some ⟨keyCallee runtime "segment", .one p⟩
  | .builtin _ f args =>
    some ⟨keyCallee runtime f.name, .ofPaths args⟩

/-- The expression that a key template is meant to have. -/
def KeyTemplate.keyExpression (runtime : List Char) (k : KeyTemplate) :
    KeyExpression :=
  if k.isLiteral then
    .text (k.segments.flatMap fun s => s.literalText.toList)
  else
    .format (k.segments.flatMap Segment.formatPart)
      (k.segments.filterMap (Segment.keyCall? runtime))

namespace KeyExpression

/-! ## Fixed texts -/

/-- What follows a fixed text is found. -/
theorem after?_append (text : String) (cs : List Char) :
    after? text (text.toList ++ cs) = some cs :=
  List.isPrefixOf?_eq_some_iff_append_eq.mpr rfl

/-! ## Places -/

theorem isPlaceChar_of_isIdentRest {c : Char}
    (h : Text.isIdentRest c = true) : isPlaceChar c = true := by
  simp [isPlaceChar, h]

theorem not_isIdentRest_point : Text.isIdentRest '.' = false := by decide

/-- The names of a field path that is made of identifiers. -/
theorem isIdentifierChars_of_mem_names {p : FieldPath} (hp : p.Named) :
    ∀ name ∈ (p.param :: p.fields).map String.toList,
      Text.isIdentifierChars name = true := by
  intro name hname
  rcases List.mem_map.mp hname with ⟨s, hs, rfl⟩
  rcases List.mem_cons.mp hs with rfl | hs
  · exact hp.param
  · exact hp.fields s hs

/-- The characters of names with points between them are those of a
place. -/
theorem isPlaceChar_of_mem_intercalate {names : List (List Char)}
    (h : ∀ name ∈ names, Text.isIdentifierChars name = true) :
    ∀ c ∈ ['.'].intercalate names, isPlaceChar c = true := by
  intro c hc
  rcases mem_or_exists_of_mem_intercalate hc with hc | ⟨name, hname, hc⟩
  · obtain rfl : c = '.' := by simpa using hc
    decide
  · exact isPlaceChar_of_isIdentRest (Text.isIdentRest_of_mem (h name hname) hc)

/-- What may follow an item: the comma or the parenthesis behind it. -/
def EndsItem (cs : List Char) : Prop :=
  cs.head? = some ',' ∨ cs.head? = some ')'

theorem EndsItem.takeWhile {cs : List Char} (h : EndsItem cs) :
    cs.takeWhile isPlaceChar = [] ∧ cs.dropWhile isPlaceChar = cs := by
  cases cs with
  | nil => simp
  | cons c cs =>
    have hc : isPlaceChar c = false := by
      rcases h with h | h
      · obtain rfl : c = ',' := by simpa using h
        decide
      · obtain rfl : c = ')' := by simpa using h
        decide
    simp [hc]

/-- A place reads back from its text. -/
theorem place?_text {p : FieldPath} (hp : p.Named) {rest : List Char}
    (hrest : EndsItem rest) :
    place? (p.text.toList ++ rest) = some (p, rest) := by
  have hnames := isIdentifierChars_of_mem_names hp
  have hchars := isPlaceChar_of_mem_intercalate hnames
  have htext : p.text.toList
      = ['.'].intercalate ((p.param :: p.fields).map String.toList) := by
    simp [FieldPath.text]
  have hpoint : ∀ name ∈ (p.param :: p.fields).map String.toList,
      '.' ∉ name := by
    intro name hname hmem
    have := Text.isIdentRest_of_mem (hnames name hname) hmem
    rw [not_isIdentRest_point] at this
    cases this
  have hall : ((p.param :: p.fields).map String.toList).all
      Text.isIdentifierChars = true := List.all_eq_true.mpr hnames
  unfold place?
  rw [htext, List.takeWhile_append_of_pos hchars,
    List.dropWhile_append_of_pos hchars, hrest.takeWhile.1,
    hrest.takeWhile.2, List.append_nil,
    List.splitOn_intercalate '.' hpoint (by simp)]
  rw [List.map_cons] at hall ⊢
  simp only [path?, hall, if_true, String.ofList_toList, List.map_map,
    Option.map_some]
  congr 2
  cases p
  simp [Function.comp_def]

/-- The text of a reference to a place. -/
def referenceChars (p : FieldPath) : List Char :=
  '&' :: p.text.toList

theorem reference?_referenceChars {p : FieldPath} (hp : p.Named)
    {rest : List Char} (hrest : EndsItem rest) :
    reference? (referenceChars p ++ rest) = some (p, rest) :=
  place?_text hp hrest

/-! ## Items in a row -/

/-- Items read back from their texts with commas between them, when each
of them does. -/
theorem separated?_intercalate {α : Type}
    {item? : List Char → Option (α × List Char)} {chars : α → List Char}
    {items : List α} (hne : items ≠ []) (tail : List Char)
    (hitem : ∀ a ∈ items, ∀ rest, EndsItem rest →
      item? (chars a ++ rest) = some (a, rest)) :
    separated? item?
        ([',', ' '].intercalate (items.map chars) ++ ')' :: tail)
      = some (items, ')' :: tail) := by
  induction items with
  | nil => exact absurd rfl hne
  | cons a items ih =>
    cases items with
    | nil =>
      have ha := hitem a (by simp) (')' :: tail) (Or.inr rfl)
      rw [separated?]
      simp [ha]
    | cons b items =>
      let more := [',', ' '].intercalate ((b :: items).map chars)
        ++ ')' :: tail
      have ha := hitem a (by simp) (',' :: ' ' :: more) (Or.inl rfl)
      have hmore : separated? item? more = some (b :: items, ')' :: tail) :=
        ih (by simp) (fun x hx => hitem x (by simp [hx]))
      have hlist : [',', ' '].intercalate ((a :: b :: items).map chars)
          ++ ')' :: tail = chars a ++ ',' :: ' ' :: more := by
        simp [more, List.intercalate_cons_cons]
      have hlength : more.length < (chars a ++ ',' :: ' ' :: more).length := by
        simp only [List.length_append, List.length_cons]
        omega
      rw [hlist, separated?]
      simp only [ha, hlength, if_true, hmore, Option.map_some]

/-! ## Operands and calls -/

/-- No name begins with a bracket. -/
theorem isPrefixOf?_text_eq_none {p : FieldPath} (hp : p.Named) {c : Char}
    (hc : Text.isIdentRest c = false) (cs rest : List Char) :
    (c :: cs).isPrefixOf? (p.text.toList ++ rest) = none := by
  have hparam : Text.isIdentifierChars p.param.toList = true := hp.param
  have htext : ∃ tail, p.text.toList = p.param.toList ++ tail := by
    cases hfields : p.fields with
    | nil => exact ⟨[], by simp [FieldPath.text, hfields]⟩
    | cons f fs =>
      exact ⟨_, by simp [FieldPath.text, hfields, List.append_assoc]; rfl⟩
  obtain ⟨tail, htail⟩ := htext
  rw [htail]
  cases hroot : p.param.toList with
  | nil => simp [hroot, Text.isIdentifierChars] at hparam
  | cons d ds =>
    have hd : Text.isIdentRest d = true :=
      Text.isIdentRest_of_mem hparam (by simp [hroot])
    have hne : c ≠ d := by
      intro heq
      subst heq
      rw [hc] at hd
      cases hd
    simp [List.isPrefixOf?, hne]

/-- An operand reads back from its text. -/
theorem operand?_operandText {ps : List FieldPath}
    (hps : ∀ p ∈ ps, p.Named) {rest : List Char} (hrest : EndsItem rest) :
    operand? ((Segment.operandText ps).toList ++ rest)
      = some (.ofPaths ps, rest) := by
  match ps with
  | [] =>
    unfold operand?
    rw [Segment.operandText, after?_append]
    rfl
  | [p] =>
    have hp : p.Named := hps p (by simp)
    have htext : (Segment.operandText [p]).toList ++ rest
        = referenceChars p ++ rest := by
      simp [Segment.operandText, referenceChars]
    -- What follows the ampersand is neither bracket nor parenthesis.
    have hbracket : after? "&[(); 0]" (referenceChars p ++ rest) = none := by
      have := isPrefixOf?_text_eq_none hp (c := '[') (by decide)
        ['(', ')', ';', ' ', '0', ']'] rest
      simpa [after?, referenceChars, List.isPrefixOf?] using this
    have hparen : after? "&(" (referenceChars p ++ rest) = none := by
      have := isPrefixOf?_text_eq_none hp (c := '(') (by decide) [] rest
      simpa [after?, referenceChars, List.isPrefixOf?] using this
    unfold operand?
    rw [htext, hbracket]
    simp only
    rw [hparen]
    simp [reference?_referenceChars hp hrest, KeyOperand.ofPaths]
  | p :: q :: ps =>
    have htext : (Segment.operandText (p :: q :: ps)).toList ++ rest
        = "&(".toList
          ++ ([',', ' '].intercalate ((p :: q :: ps).map referenceChars)
            ++ ')' :: rest) := by
      have hchars : referenceChars = fun p => '&' :: p.text.toList := rfl
      simp [Segment.operandText, hchars, Function.comp_def]
    have hitems := @separated?_intercalate _ reference? referenceChars
      (p :: q :: ps) (by simp) rest
      (fun a ha _ hend => reference?_referenceChars (hps a ha) hend)
    unfold operand?
    rw [htext]
    have hbracket : ∀ cs, after? "&[(); 0]" ("&(".toList ++ cs) = none :=
      fun _ => rfl
    rw [hbracket]
    simp only
    rw [after?_append]
    simp only
    rw [hitems]
    rfl

end KeyExpression

/-- The paths of an operand. -/
def KeyOperand.paths : KeyOperand → List FieldPath
  | .nothing => []
  | .one p => [p]
  | .tuple ps => ps

/-- The text of a call. -/
def KeyCall.chars (c : KeyCall) : List Char :=
  c.callee ++ '(' :: (Segment.operandText c.operand.paths).toList ++ [')']

@[simp] theorem KeyOperand.paths_ofPaths (ps : List FieldPath) :
    (KeyOperand.ofPaths ps).paths = ps := by
  match ps with
  | [] => rfl
  | [_] => rfl
  | _ :: _ :: _ => rfl

/-- A call that the text of a segment may hold: its callee has no
parenthesis, its operand is that of named paths. -/
structure KeyCall.Readable (c : KeyCall) : Prop where
  callee : ∀ d ∈ c.callee, d ≠ '('
  operand : .ofPaths c.operand.paths = c.operand
  paths : ∀ p ∈ c.operand.paths, p.Named

namespace KeyExpression

/-- A call reads back from its text. -/
theorem call?_chars {c : KeyCall} (hc : c.Readable) (rest : List Char) :
    call? (c.chars ++ rest) = some (c, rest) := by
  have hcallee : ∀ d ∈ c.callee, (d != '(') = true := by
    intro d hd
    simpa using hc.callee d hd
  have htext : c.chars ++ rest
      = c.callee ++ '(' :: ((Segment.operandText c.operand.paths).toList
          ++ ')' :: rest) := by
    simp [KeyCall.chars]
  unfold call?
  rw [htext, List.dropWhile_append_of_pos hcallee,
    List.takeWhile_append_of_pos hcallee]
  have hend : EndsItem (')' :: rest) := Or.inr rfl
  simp [operand?_operandText hc.paths hend, hc.operand]

/-! ## Whole expressions -/

/-- The argument of a segment is the text of its call. -/
theorem argument?_eq_keyCall? (runtime : String) (s : Segment) :
    (s.argument? runtime).map String.toList
      = (s.keyCall? runtime.toList).map KeyCall.chars := by
  cases s with
  | literal t => rfl
  | field p =>
    simp [Segment.argument?, Segment.keyCall?, KeyCall.chars, keyCallee,
      KeyOperand.paths, Segment.operandText]
  | builtin name f args =>
    simp [Segment.argument?, Segment.keyCall?, KeyCall.chars, keyCallee]

theorem ne_paren_of_mem_keyCallee {runtime : List Char} {name : String}
    (hruntime : ∀ c ∈ runtime, c ≠ '(')
    (hname : '(' ∉ name.toList) :
    ∀ c ∈ keyCallee runtime name, c ≠ '(' := by
  have hkeys : '(' ∉ "::keys::".toList := by decide
  intro c hc
  simp only [keyCallee, List.mem_append] at hc
  rcases hc with (hc | hc) | hc
  · exact hruntime c hc
  · intro heq
    exact hkeys (heq ▸ hc)
  · intro heq
    exact hname (heq ▸ hc)

/-- The calls of named segments read back. -/
theorem readable_of_keyCall?_eq_some {runtime : List Char} {s : Segment}
    {c : KeyCall} (hruntime : ∀ c ∈ runtime, c ≠ '(') (hs : s.Named)
    (h : s.keyCall? runtime = some c) : c.Readable := by
  cases s with
  | literal t => cases h
  | field p =>
    obtain rfl : KeyCall.mk (keyCallee runtime "segment") (.one p) = c := by
      simpa [Segment.keyCall?] using h
    refine ⟨ne_paren_of_mem_keyCallee hruntime (by decide), rfl, ?_⟩
    intro q hq
    obtain rfl : q = p := by simpa [KeyOperand.paths] using hq
    exact hs
  | builtin name f args =>
    obtain rfl : KeyCall.mk (keyCallee runtime f.name) (.ofPaths args) = c := by
      simpa [Segment.keyCall?] using h
    refine ⟨ne_paren_of_mem_keyCallee hruntime ?_, ?_, ?_⟩
    · cases f <;> decide
    · simp
    · intro q hq
      exact hs q (by simpa using hq)

/-- The arguments of a key template read back. -/
theorem args?_intercalate {runtime : String} {k : KeyTemplate}
    (hruntime : ∀ c ∈ runtime.toList, c ≠ '(') (hk : k.Named)
    (hne : k.segments.filterMap (Segment.keyCall? runtime.toList) ≠ []) :
    args? ((String.intercalate ", "
        (k.segments.filterMap (Segment.argument? runtime))).toList ++ [')'])
      = some (k.segments.filterMap (Segment.keyCall? runtime.toList)) := by
  have hchars : (k.segments.filterMap (Segment.argument? runtime)).map
      String.toList
      = (k.segments.filterMap (Segment.keyCall? runtime.toList)).map
          KeyCall.chars := by
    rw [List.map_filterMap, List.map_filterMap]
    congr 1
    funext s
    exact argument?_eq_keyCall? runtime s
  have hitems := @separated?_intercalate _ call? KeyCall.chars _ hne [] (by
    intro c hc rest _
    obtain ⟨s, hs, hcall⟩ := List.mem_filterMap.mp hc
    exact call?_chars
      (readable_of_keyCall?_eq_some hruntime (hk s hs) hcall) rest)
  have hcomma : ", ".toList = [',', ' '] := by decide
  unfold args?
  rw [String.toList_intercalate, hchars, hcomma, hitems]
  rfl

/-- A key template that is not text alone has arguments. -/
theorem filterMap_keyCall?_ne_nil {runtime : List Char} {k : KeyTemplate}
    (h : k.isLiteral = false) :
    k.segments.filterMap (Segment.keyCall? runtime) ≠ [] := by
  simp only [KeyTemplate.isLiteral, List.all_eq_false] at h
  obtain ⟨s, hs, hliteral⟩ := h
  have hcall : ∃ c, s.keyCall? runtime = some c := by
    cases s with
    | literal t => simp [Segment.isLiteral] at hliteral
    | field p => exact ⟨_, rfl⟩
    | builtin name f args => exact ⟨_, rfl⟩
  obtain ⟨c, hc⟩ := hcall
  exact List.ne_nil_of_mem (List.mem_filterMap.mpr ⟨s, hs, hc⟩)

/-- Reading the expression of a key template gives what it is meant to
be. -/
theorem read?_expression {runtimePath : String} {k : KeyTemplate}
    (hruntime : ∀ c ∈ trimSeparators runtimePath.toList, c ≠ '(')
    (hk : k.Named) :
    read? (k.expression runtimePath).toList
      = some (k.keyExpression (trimSeparators runtimePath.toList)) := by
  unfold KeyTemplate.expression KeyTemplate.keyExpression
  cases hliteral : k.isLiteral with
  | true =>
    simp only [if_true, String.toList_append, List.append_assoc]
    unfold read?
    rw [after?_append]
    simp [Text.literal, Text.readLiteral?_literalChars,
      List.flatMap_map]
  | false =>
    have hargs := @args?_intercalate
      (String.ofList (trimSeparators runtimePath.toList)) k
      (by simpa using hruntime) hk (filterMap_keyCall?_ne_nil hliteral)
    simp only [Bool.false_eq_true, if_false, String.toList_append,
      List.append_assoc]
    unfold read?
    have htext : ∀ cs, after? "String::from(" ("format!(".toList ++ cs)
        = none := fun _ => rfl
    rw [htext]
    simp only
    rw [after?_append]
    simp only [Option.bind_some, Text.literal, String.toList_ofList,
      Text.readLiteral?_literalChars]
    rw [String.toList_ofList] at hargs
    simpa using hargs

end KeyExpression

end PolicyWeave
