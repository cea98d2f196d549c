import PolicyWeave.Proofs.Source.Writing
import PolicyWeave.Proofs.Text.Keywords

/-!
# Reading items

What a file declares is read from its code: the keyword that an item starts
with and the name behind it.  An implementation of a contract is read with
its functions.

* `Item` and `Code.items` are the items and their reader.  Empty lines,
  comments and attributes are passed over, and nothing else is.
* The lemmas about keywords read one item each.
* `Code.lineItems_lines` reads the same items from the lines of a text, where
  no line of the text comes from within a name or a path.
-/

namespace PolicyWeave

/-! ## Items -/

/-- An item of generated code.  The functions of an implementation are read
with the texts that they start with and the lines of their bodies. -/
inductive Item where
  | constant (name : String)
  | type (name : String)
  | alias (name : String)
  | function (name : String)
  | construction (type : String)
  | implementation (contract type : String)
      (functions : List (String × List (List Char)))
  | unknown

/-- An item without the functions of an implementation. -/
def Item.bare : Item → Item
  | implementation contract name _ => implementation contract name []
  | item => item

namespace Code

open Text (behind? nameOf behindName differ)

/-- A function: the text that it starts with and the lines of its body.  A
piece of code that is no block is read as a function with a text or a body
missing. -/
def function? : Code → Option (String × List (List Char))
  | blank => none
  | line text => some (text, [])
  | block head body _ => some (head, lines body)
  | deeper body => some ("", lines body)

/-- What a text behind `impl` implements: a contract for a type, or the
construction of a type. -/
def implItem (functions : List (String × List (List Char)))
    (cs : List Char) : Item :=
  match behind? " for " (behindName cs) with
  | some rest => .implementation (nameOf cs) (nameOf rest) functions
  | none => .construction (nameOf cs)

/-- The item that a text starts, by the keyword in front of its name. -/
def itemOf? (functions : List (String × List (List Char)))
    (cs : List Char) : Option Item :=
  (behind? "const " cs).map (fun rest => .constant (nameOf rest))
    <|> (behind? "pub struct " cs).map (fun rest => .type (nameOf rest))
    <|> (behind? "pub type " cs).map (fun rest => .alias (nameOf rest))
    <|> (behind? "pub fn " cs).map (fun rest => .function (nameOf rest))
    <|> (behind? "impl " cs).map (implItem functions)

/-- Whether a text is a comment or an attribute. -/
def isRemark (text : String) : Bool :=
  (behind? "///" text.toList).isSome || (behind? "#[" text.toList).isSome

/-- The item of a text that is a remark or starts one.  Any other text is an
item that is not known. -/
def textItem? (functions : List (String × List (List Char)))
    (text : String) : Option Item :=
  itemOf? functions text.toList
    <|> if isRemark text then none else some .unknown

/-- The item of a piece of code, if it is one. -/
def item? : Code → Option Item
  | blank => none
  | line text => textItem? [] text
  | block head body _ => textItem? (body.filterMap function?) head
  | deeper _ => some .unknown

/-- The items of code, in order. -/
def items (cs : List Code) : List Item := cs.filterMap item?

@[simp] theorem items_append (cs ds : List Code) :
    items (cs ++ ds) = items cs ++ items ds :=
  List.filterMap_append

theorem items_cons {c : Code} {item : Item} (h : item? c = some item)
    (cs : List Code) : items (c :: cs) = item :: items cs :=
  List.filterMap_cons_some h

theorem items_cons_of_none {c : Code} (h : item? c = none) (cs : List Code) :
    items (c :: cs) = items cs :=
  List.filterMap_cons_none h

@[simp] theorem item?_blank : item? blank = none := rfl

/-! ## Items behind keywords -/

open Text (behind?_append behind?_of_differ nameOf_append behindName_append
  stopsName stopsName_append)

section

variable {name rest : String} (hname : Text.isIdentifier name = true)
  (hrest : stopsName rest = true) (body : List Code) (tail : String)

include hname hrest

theorem item?_constant :
    item? (.block ("const " ++ (name ++ rest)) body tail)
      = some (.constant name) := by
  rw [item?, textItem?, itemOf?, behind?_append, Option.map_some,
    nameOf_append hname hrest]
  rfl

theorem item?_type :
    item? (.block ("pub struct " ++ (name ++ rest)) body tail)
      = some (.type name) := by
  rw [item?, textItem?, itemOf?, behind?_of_differ (by decide),
    behind?_append, Option.map_some, nameOf_append hname hrest]
  rfl

theorem item?_alias :
    item? (.line ("pub type " ++ (name ++ rest))) = some (.alias name) := by
  rw [item?, textItem?, itemOf?, behind?_of_differ (by decide),
    behind?_of_differ (by decide), behind?_append, Option.map_some,
    nameOf_append hname hrest]
  rfl

theorem item?_function :
    item? (.block ("pub fn " ++ (name ++ rest)) body tail)
      = some (.function name) := by
  rw [item?, textItem?, itemOf?, behind?_of_differ (by decide),
    behind?_of_differ (by decide), behind?_of_differ (by decide),
    behind?_append, Option.map_some, nameOf_append hname hrest]
  rfl

/-- A function that is the last item. -/
theorem items_function :
    items [.block ("pub fn " ++ (name ++ rest)) body tail]
      = [.function name] :=
  items_cons (item?_function hname hrest body tail) []

omit hname hrest in
theorem item?_impl :
    item? (.block ("impl " ++ rest) body tail)
      = some (implItem (body.filterMap function?) rest.toList) := by
  rw [item?, textItem?, itemOf?, behind?_of_differ (by decide),
    behind?_of_differ (by decide), behind?_of_differ (by decide),
    behind?_of_differ (by decide), behind?_append]
  rfl

omit hrest in
theorem item?_construction :
    item? (.block ("impl " ++ (name ++ " \x7b")) body tail)
      = some (.construction name) := by
  have hcontract : behind? " for " " \x7b".toList = none := by decide
  rw [item?_impl, implItem, behindName_append hname (by decide), hcontract,
    nameOf_append hname (by decide)]

theorem item?_implementation {contract : String}
    (hcontract : Text.isIdentifier contract = true) :
    item? (.block ("impl " ++ (contract ++ (" for " ++ (name ++ rest)))) body
        tail)
      = some (.implementation contract name (body.filterMap function?)) := by
  have hfor : stopsName (" for " ++ (name ++ rest)) = true :=
    stopsName_append (by decide) _
  rw [item?_impl, implItem, behindName_append hcontract hfor, behind?_append,
    nameOf_append hcontract hfor]
  simp only [nameOf_append hname hrest]

end

/-! ## Texts that start no item -/

/-- The keywords that items start with. -/
def itemKeywords : List String :=
  ["const ", "pub struct ", "pub type ", "pub fn ", "impl "]

/-- A text that differs from all keywords starts no item. -/
theorem itemOf?_of_differ {head : String}
    (h : ∀ keyword ∈ itemKeywords, differ keyword head = true)
    (functions : List (String × List (List Char))) (rest : String) :
    itemOf? functions (head ++ rest).toList = none := by
  simp only [itemKeywords, List.forall_mem_cons] at h
  obtain ⟨hconst, hstruct, htype, hfn, himpl, -⟩ := h
  rw [itemOf?, behind?_of_differ hconst, behind?_of_differ hstruct,
    behind?_of_differ htype, behind?_of_differ hfn, behind?_of_differ himpl]
  rfl

/-- A comment or an attribute is no item. -/
theorem item?_remark {head : String} (hremark : isRemark head = true)
    (hdiffer : ∀ keyword ∈ itemKeywords, differ keyword head = true)
    (rest : String) : item? (.line (head ++ rest)) = none := by
  have hwhole : isRemark (head ++ rest) = true := by
    rw [isRemark, Bool.or_eq_true] at hremark ⊢
    exact hremark.imp (Text.isSome_behind?_append · rest)
      (Text.isSome_behind?_append · rest)
  rw [item?, textItem?, itemOf?_of_differ hdiffer, if_pos hwhole]
  rfl

/-! ## Items of lines -/

/-- The items that lines start, without the functions behind them. -/
def lineItems (ls : List (List Char)) : List Item := ls.filterMap (itemOf? [])

theorem lineItems_append (ls ms : List (List Char)) :
    lineItems (ls ++ ms) = lineItems ls ++ lineItems ms :=
  List.filterMap_append

/-- A line within a block starts no item. -/
theorem lineItems_placed (ls : List (List Char)) :
    lineItems (ls.map (Writer.placed 1)) = [] := by
  have hno : ∀ keyword ∈ itemKeywords, differ keyword " " = true := by decide
  refine List.filterMap_eq_nil_iff.mpr fun l hl => ?_
  obtain ⟨inner, -, rfl⟩ := List.mem_map.mp hl
  cases inner with
  | nil => decide
  | cons c cs =>
    have hplaced : Writer.placed 1 (c :: cs)
        = (" " ++ String.ofList (' ' :: ' ' :: ' ' :: c :: cs)).toList := by
      simp [Writer.placed, List.replicate_succ]
    rw [hplaced, itemOf?_of_differ hno]

/-- The functions of an implementation stand behind the text that starts
it. -/
theorem itemOf?_nil (functions : List (String × List (List Char)))
    (cs : List Char) :
    itemOf? [] cs = (itemOf? functions cs).map Item.bare := by
  have himpl : implItem [] = Item.bare ∘ implItem functions := by
    funext rest
    rw [implItem, Function.comp_apply, implItem]
    split <;> rfl
  have hor : ∀ x y : Option Item,
      (x <|> y).map Item.bare = (x.map Item.bare <|> y.map Item.bare) := by
    intro x y
    cases x <;> rfl
  simp only [itemOf?, hor, Option.map_map, himpl]
  rfl

/-- A known text is read as the item that its line starts. -/
theorem lineItems_singleton {text : String}
    (functions : List (String × List (List Char)))
    (hknown : textItem? functions text ≠ some .unknown) :
    lineItems [text.toList]
      = ((textItem? functions text).map Item.bare).toList := by
  have hline := itemOf?_nil functions text.toList
  rw [textItem?] at hknown ⊢
  cases hitem : itemOf? functions text.toList with
  | some item =>
    rw [hitem] at hline
    simp [lineItems, hline]
  | none =>
    rw [hitem] at hline hknown
    cases hremark : isRemark text with
    | true => simp [lineItems, hline]
    | false => simp [hremark] at hknown

/-- Whether the texts of a piece of code at depth zero are one line each, and
the last line of a block starts no item. -/
def OneLine : Code → Prop
  | line text => '\n' ∉ text.toList
  | block head _ tail =>
    '\n' ∉ head.toList ∧ '\n' ∉ tail.toList ∧ itemOf? [] tail.toList = none
  | _ => True

theorem lineItems_pieceLines {c : Code} (h : c.OneLine)
    (hknown : item? c ≠ some .unknown) :
    lineItems c.pieceLines = ((item? c).map Item.bare).toList := by
  cases c with
  | line text =>
    rw [pieceLines, Text.splitOn_eq_singleton h, item?]
    exact lineItems_singleton [] hknown
  | blank => rfl
  | block head body tail =>
    obtain ⟨hhead, htail, hno⟩ := h
    have hlast : lineItems [tail.toList] = [] := by simp [lineItems, hno]
    rw [pieceLines, Text.splitOn_eq_singleton hhead,
      Text.splitOn_eq_singleton htail, lineItems_append, lineItems_append,
      lineItems_placed, hlast, item?,
      lineItems_singleton (body.filterMap function?) hknown, List.append_nil,
      List.append_nil]
  | deeper body => exact absurd rfl hknown

/-- The items of code are those that its lines start. -/
theorem lineItems_lines {cs : List Code} (h : ∀ c ∈ cs, OneLine c)
    (hknown : Item.unknown ∉ items cs) :
    lineItems (lines cs) = (items cs).map Item.bare := by
  induction cs with
  | nil => rfl
  | cons c cs ih =>
    obtain ⟨hc, hcs⟩ := List.forall_mem_cons.mp h
    have hitems : items (c :: cs) = (item? c).toList ++ items cs := by
      cases hitem : item? c with
      | none => exact items_cons_of_none hitem cs
      | some item => exact items_cons hitem cs
    rw [hitems, List.mem_append, not_or] at hknown
    have hpiece := lineItems_pieceLines hc fun heq =>
      hknown.1 (by simp [heq])
    rw [lines, lineItems_append, hpiece, ih hcs hknown.2, hitems,
      List.map_append]
    cases item? c <;> rfl

end Code

end PolicyWeave
