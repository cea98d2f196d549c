import Mathlib.Data.String.Basic
import PolicyWeave.Proofs.Data.Table
import PolicyWeave.Proofs.Json.Tree
import PolicyWeave.Template.Native

/-!
# Keys of native values and of stored values

A native value enters a key in two ways: generated code calls the key
function on the value itself, and evaluation calls it on the JSON value
that was stored for it.  This module says for which values the two give
the same text.

* `Datum.tree` is the JSON text of a native value with its structure, in
  the order of the value.
* `Datum.Canonical` is the condition: the names of every record and map
  ascend, and every number of single precision is written as the double
  that it is stored as.
* `Datum.tree_eq_iff_canonical`: the trees of the two ways are one tree
  exactly under this condition.  Texts have one tree, so this decides
  whether they agree.
* `Datum.agrees_iff_canonical` is the result for all key functions.  A
  record with its fields in another order is a value on which the two ways
  differ.
-/

namespace PolicyWeave

open Number
open Json (Tree Word)

/-- The name that a map key becomes in JSON, if it is a text or a
number. -/
def MapKey.name : MapKey → String
  | .text s => s
  | .whole n => intText n
  | .composite => ""

namespace Datum

/-- Induction over native values, with items, fields and entries at
hand. -/
theorem induction {P : Datum → Prop} (unit : P .unit)
    (bool : ∀ b, P (.bool b)) (whole : ∀ n, P (.whole n))
    (single : ∀ x, P (.single x)) (double : ∀ x, P (.double x))
    (text : ∀ s, P (.text s))
    (sequence : ∀ items, (∀ x ∈ items, P x) → P (.sequence items))
    (record : ∀ fields : List (String × Datum),
      (∀ f ∈ fields, P f.2) → P (.record fields))
    (map : ∀ entries : List (MapKey × Datum),
      (∀ e ∈ entries, P e.2) → P (.map entries)) (d : Datum) : P d :=
  @Datum.rec P (fun items => ∀ x ∈ items, P x)
    (fun fields => ∀ f ∈ fields, P f.2)
    (fun entries => ∀ e ∈ entries, P e.2) (fun f => P f.2)
    (fun e => P e.2)
    unit bool whole single double text sequence record map (by simp)
    (fun _ _ hx hs => List.forall_mem_cons.mpr ⟨hx, hs⟩) (by simp)
    (fun _ _ hx hs => List.forall_mem_cons.mpr ⟨hx, hs⟩) (by simp)
    (fun _ _ hx hs => List.forall_mem_cons.mpr ⟨hx, hs⟩)
    (fun _ _ hx => hx) (fun _ _ hx => hx) d

/-- The entries of a map as fields. -/
def named (entries : List (MapKey × Datum)) : List (String × Datum) :=
  entries.map fun e => (e.1.name, e.2)

/-- The values of entries are those of their fields. -/
theorem forall_named {P : Datum → Prop}
    {entries : List (MapKey × Datum)} :
    (∀ f ∈ named entries, P f.2) ↔ ∀ e ∈ entries, P e.2 :=
  List.forall_mem_map

/-! ## The trees of native values -/

mutual

/-- The JSON text of a datum with its structure. -/
def tree : Datum → Tree
  | .unit => .word .null
  | .bool b => .word (.ofBool b)
  | .whole n => .word (.ofInt n)
  | .single x => .word (.ofBinary jsonSingleLayout Format.single x)
  | .double x => .word (.ofBinary jsonLayout Format.double x)
  | .text s => .quoted s
  | .sequence items => .array (itemTrees items)
  | .record fields => .object (fieldTrees fields)
  | .map entries => .object (entryTrees entries)

/-- The trees of items. -/
def itemTrees : List Datum → List Tree
  | [] => []
  | x :: rest => tree x :: itemTrees rest

/-- The trees of fields. -/
def fieldTrees : List (String × Datum) → List (String × Tree)
  | [] => []
  | (k, x) :: rest => (k, tree x) :: fieldTrees rest

/-- The trees of entries. -/
def entryTrees : List (MapKey × Datum) → List (String × Tree)
  | [] => []
  | (k, x) :: rest => (k.name, tree x) :: entryTrees rest

end

theorem entryTrees_eq_fieldTrees (entries : List (MapKey × Datum)) :
    entryTrees entries = fieldTrees (named entries) := by
  induction entries with
  | nil => rfl
  | cons e rest ih =>
    rw [entryTrees, ih]
    rfl

/-! ## Conversions that succeed -/

/-- Both parts of a conversion that succeeds do. -/
theorem exists_of_bind_eq_ok {α β : Type} {x : Except DatumError α}
    {f : α → Except DatumError β} {b : β} (h : (x >>= f) = .ok b) :
    ∃ a, x = .ok a ∧ f a = .ok b := by
  cases x with
  | error e => cases h
  | ok a => exact ⟨a, rfl, h⟩

theorem exists_of_map_eq_ok {α β : Type} {x : Except DatumError α}
    {f : α → β} {b : β} (h : x.map f = .ok b) :
    ∃ a, x = .ok a ∧ f a = b := by
  cases x with
  | error e => cases h
  | ok a => exact ⟨a, rfl, Except.ok.inj h⟩

theorem itemsJson_cons {x : Datum} {rest : List Datum} {vs : List Json}
    (h : itemsJson (x :: rest) = .ok vs) :
    ∃ v ws, x.toJson = .ok v ∧ itemsJson rest = .ok ws ∧ vs = v :: ws := by
  rw [itemsJson] at h
  obtain ⟨v, hx, h⟩ := exists_of_bind_eq_ok h
  obtain ⟨ws, hrest, h⟩ := exists_of_bind_eq_ok h
  exact ⟨v, ws, hx, hrest, (Except.ok.inj h).symm⟩

theorem fieldsJson_cons {k : String} {x : Datum}
    {rest : List (String × Datum)} {ms : List (String × Json)}
    (h : fieldsJson ((k, x) :: rest) = .ok ms) :
    ∃ v ns, x.toJson = .ok v ∧ fieldsJson rest = .ok ns
      ∧ ms = (k, v) :: ns := by
  rw [fieldsJson] at h
  obtain ⟨v, hx, h⟩ := exists_of_bind_eq_ok h
  obtain ⟨ns, hrest, h⟩ := exists_of_bind_eq_ok h
  exact ⟨v, ns, hx, hrest, (Except.ok.inj h).symm⟩

/-- The entries of a map are converted as fields, and all their keys have
names. -/
theorem fieldsJson_of_entriesJson {entries : List (MapKey × Datum)}
    {ms : List (String × Json)} (h : entriesJson entries = .ok ms) :
    (∀ e ∈ entries, e.1.text? = .ok e.1.name)
      ∧ fieldsJson (named entries) = .ok ms := by
  induction entries generalizing ms with
  | nil => exact ⟨by simp, h⟩
  | cons e rest ih =>
    obtain ⟨k, x⟩ := e
    rw [entriesJson] at h
    obtain ⟨name, hk, h⟩ := exists_of_bind_eq_ok h
    obtain ⟨v, hx, h⟩ := exists_of_bind_eq_ok h
    obtain ⟨ns, hrest, h⟩ := exists_of_bind_eq_ok h
    obtain rfl : name = k.name := by
      cases k with
      | text s => exact (Except.ok.inj hk).symm
      | whole n => exact (Except.ok.inj hk).symm
      | composite => cases hk
    obtain rfl : (k.name, v) :: ns = ms := Except.ok.inj h
    obtain ⟨hnames, hfields⟩ := ih hrest
    refine ⟨List.forall_mem_cons.mpr ⟨hk, hnames⟩, ?_⟩
    change fieldsJson ((k.name, x) :: named rest) = _
    rw [fieldsJson, hx, hfields]
    rfl

/-- Entries whose keys have names are written as fields. -/
theorem entriesText_eq_fieldsText :
    ∀ {entries : List (MapKey × Datum)},
      (∀ e ∈ entries, e.1.text? = .ok e.1.name) →
      entriesText entries = fieldsText (named entries)
  | [], _ => rfl
  | [(k, x)], h => by
    rw [entriesText, h (k, x) (by simp)]
    rfl
  | (k, x) :: e :: rest, h => by
    obtain ⟨hk, hrest⟩ := List.forall_mem_cons.mp h
    rw [entriesText, hk, entriesText_eq_fieldsText hrest]
    rfl

/-! ## Texts are the texts of trees -/

/-- Whether what has a JSON form is written as its tree. -/
def WrittenAsTree (d : Datum) : Prop :=
  ∀ v, d.toJson = .ok v → d.jsonText = .ok d.tree.text

theorem itemsText_eq :
    ∀ {items : List Datum} {vs : List Json},
      (∀ x ∈ items, x.WrittenAsTree) → itemsJson items = .ok vs →
      itemsText items
        = .ok (String.ofList (Tree.itemsChars (itemTrees items)))
  | [], _, _, _ => rfl
  | [x], vs, hwritten, h => by
    obtain ⟨v, ws, hx, -⟩ := itemsJson_cons h
    rw [itemsText, hwritten x (by simp) v hx]
    rfl
  | x :: y :: rest, vs, hwritten, h => by
    obtain ⟨v, ws, hx, hrest, -⟩ := itemsJson_cons h
    obtain ⟨hxw, hws⟩ := List.forall_mem_cons.mp hwritten
    rw [itemsText, hxw v hx, itemsText_eq hws hrest]
    simp [itemTrees, Tree.itemsChars, Tree.text, bind, Except.bind, pure,
      Except.pure, ← String.toList_inj]

theorem fieldsText_eq :
    ∀ {fields : List (String × Datum)} {ms : List (String × Json)},
      (∀ f ∈ fields, f.2.WrittenAsTree) → fieldsJson fields = .ok ms →
      fieldsText fields
        = .ok (String.ofList (Tree.membersChars (fieldTrees fields)))
  | [], _, _, _ => rfl
  | [(k, x)], ms, hwritten, h => by
    obtain ⟨v, ns, hx, -⟩ := fieldsJson_cons h
    rw [fieldsText, hwritten (k, x) (by simp) v hx]
    simp [fieldTrees, Tree.membersChars, Tree.text, bind, Except.bind, pure,
      Except.pure, ← String.toList_inj]
  | (k, x) :: f :: rest, ms, hwritten, h => by
    obtain ⟨v, ns, hx, hrest, -⟩ := fieldsJson_cons h
    obtain ⟨hxw, hws⟩ := List.forall_mem_cons.mp hwritten
    rw [fieldsText, hxw v hx, fieldsText_eq hws hrest]
    simp [fieldTrees, Tree.membersChars, Tree.text, bind, Except.bind, pure,
      Except.pure, ← String.toList_inj]

/-- What has a JSON form is written as its tree. -/
theorem writtenAsTree (d : Datum) : d.WrittenAsTree := by
  induction d using induction with
  | unit =>
    intro v _
    rw [jsonText, tree, Json.text_word]
    rfl
  | bool b =>
    intro v _
    rw [jsonText, tree, Json.text_word]
    simp [Word.ofBool]
  | whole n =>
    intro v _
    rw [jsonText, tree, Json.text_word]
    simp [Word.ofInt]
  | single x =>
    intro v _
    rw [jsonText, tree, Json.text_word, Word.chars_ofBinary,
      String.ofList_toList]
  | double x =>
    intro v _
    rw [jsonText, tree, Json.text_word, Word.chars_ofBinary,
      String.ofList_toList]
  | text s =>
    intro v _
    simp [jsonText, tree, Tree.text, Tree.chars]
  | sequence items ih =>
    intro v h
    rw [toJson] at h
    obtain ⟨vs, hvs, -⟩ := exists_of_map_eq_ok h
    rw [jsonText, itemsText_eq ih hvs]
    simp [tree, Tree.text, Tree.chars, bind, Except.bind, pure,
      Except.pure, ← String.toList_inj]
  | record fields ih =>
    intro v h
    rw [toJson] at h
    obtain ⟨ms, hms, -⟩ := exists_of_map_eq_ok h
    rw [jsonText, fieldsText_eq ih hms]
    simp [tree, Tree.text, Tree.chars, bind, Except.bind, pure,
      Except.pure, ← String.toList_inj]
  | map entries ih =>
    intro v h
    rw [toJson] at h
    obtain ⟨ms, hms, -⟩ := exists_of_map_eq_ok h
    obtain ⟨hnames, hfields⟩ := fieldsJson_of_entriesJson hms
    have hnamed : ∀ f ∈ named entries, f.2.WrittenAsTree :=
      forall_named.mpr ih
    rw [jsonText, entriesText_eq_fieldsText hnames,
      fieldsText_eq hnamed hfields]
    simp [tree, entryTrees_eq_fieldTrees, Tree.text, Tree.chars, bind,
      Except.bind, pure, Except.pure, ← String.toList_inj]

/-! ## Canonical values -/

/-- Whether the order of a datum and the width of its numbers are those of
its JSON value. -/
inductive Canonical : Datum → Prop where
  | unit : Canonical .unit
  | bool (b : Bool) : Canonical (.bool b)
  | whole (n : Int) : Canonical (.whole n)
  | single {x : Binary}
      (h : numberText jsonSingleLayout Format.single x
        = numberText jsonLayout Format.double x.widen) :
      Canonical (.single x)
  | double (x : Double) : Canonical (.double x)
  | text (s : String) : Canonical (.text s)
  | sequence {items : List Datum} (hitems : ∀ x ∈ items, Canonical x) :
      Canonical (.sequence items)
  | record {fields : List (String × Datum)}
      (hnames : Table.Ascending fields)
      (hfields : ∀ f ∈ fields, Canonical f.2) :
      Canonical (.record fields)
  | map {entries : List (MapKey × Datum)}
      (hnames : Table.Ascending (named entries))
      (hentries : ∀ e ∈ entries, Canonical e.2) :
      Canonical (.map entries)

/-- Whether the trees of the two ways are one exactly for a canonical
datum. -/
def Decided (d : Datum) : Prop :=
  ∀ v, d.toJson = .ok v → (d.tree = v.tree ↔ d.Canonical)

/-- A number that is stored as null is written as null. -/
theorem tree_numberJson (x : Double) :
    (numberJson x).tree = .word (.ofBinary jsonLayout Format.double x) := by
  cases x with
  | nan => rfl
  | infinity s => rfl
  | finite s m e => rfl

theorem itemTrees_eq_iff {items : List Datum} {vs : List Json}
    (hitems : ∀ x ∈ items, x.Decided) (h : itemsJson items = .ok vs) :
    itemTrees items = Json.itemTrees vs ↔ ∀ x ∈ items, x.Canonical := by
  induction items generalizing vs with
  | nil =>
    obtain rfl : [] = vs := Except.ok.inj h
    simp [itemTrees, Json.itemTrees]
  | cons x rest ih =>
    obtain ⟨v, ws, hx, hrest, rfl⟩ := itemsJson_cons h
    obtain ⟨hdecided, hitems⟩ := List.forall_mem_cons.mp hitems
    rw [itemTrees, Json.itemTrees, List.cons.injEq, hdecided v hx,
      ih hitems hrest, List.forall_mem_cons]

theorem fieldTrees_eq_iff {fields : List (String × Datum)}
    {ms : List (String × Json)} (hfields : ∀ f ∈ fields, f.2.Decided)
    (h : fieldsJson fields = .ok ms) :
    fieldTrees fields = Json.memberTrees ms
      ↔ ∀ f ∈ fields, f.2.Canonical := by
  induction fields generalizing ms with
  | nil =>
    obtain rfl : [] = ms := Except.ok.inj h
    simp [fieldTrees, Json.memberTrees]
  | cons f rest ih =>
    obtain ⟨k, x⟩ := f
    obtain ⟨v, ns, hx, hrest, rfl⟩ := fieldsJson_cons h
    obtain ⟨hdecided, hfields⟩ := List.forall_mem_cons.mp hfields
    rw [fieldTrees, Json.memberTrees, List.cons.injEq, Prod.mk.injEq,
      hdecided v hx, ih hfields hrest, List.forall_mem_cons]
    simp

/-! ## Names -/

theorem map_fst_fieldTrees (fields : List (String × Datum)) :
    (fieldTrees fields).map Prod.fst = fields.map Prod.fst := by
  induction fields with
  | nil => rfl
  | cons f rest ih => simp [fieldTrees, ih]

theorem map_fst_memberTrees (ms : List (String × Json)) :
    (Json.memberTrees ms).map Prod.fst = ms.map Prod.fst := by
  induction ms with
  | nil => rfl
  | cons m rest ih => simp [Json.memberTrees, ih]

/-- Conversion keeps the names of fields. -/
theorem map_fst_of_fieldsJson {fields : List (String × Datum)}
    {ms : List (String × Json)} (h : fieldsJson fields = .ok ms) :
    ms.map Prod.fst = fields.map Prod.fst := by
  induction fields generalizing ms with
  | nil =>
    obtain rfl : [] = ms := Except.ok.inj h
    rfl
  | cons f rest ih =>
    obtain ⟨v, ns, -, hrest, rfl⟩ := fieldsJson_cons h
    simp [ih hrest]

/-- Fields are in the order of their object exactly if their names
ascend. -/
theorem fieldTrees_eq_sorted_iff {fields : List (String × Datum)}
    {ms : List (String × Json)} (hfields : ∀ f ∈ fields, f.2.Decided)
    (h : fieldsJson fields = .ok ms) :
    fieldTrees fields = Json.memberTrees (Table.ofList ms)
      ↔ Table.Ascending fields ∧ ∀ f ∈ fields, f.2.Canonical := by
  have hnames := map_fst_of_fieldsJson h
  constructor
  · intro heq
    have hsorted : (Table.ofList ms).map Prod.fst = fields.map Prod.fst := by
      rw [← map_fst_fieldTrees, heq, map_fst_memberTrees]
    have hfieldsAscending : Table.Ascending fields :=
      (Table.ascending_congr hsorted).mp (Table.ascending_ofList ms)
    have hmembers : Table.ofList ms = ms := Table.ofList_eq_self_iff.mpr
      ((Table.ascending_congr hnames).mpr hfieldsAscending)
    rw [hmembers] at heq
    exact ⟨hfieldsAscending, (fieldTrees_eq_iff hfields h).mp heq⟩
  · rintro ⟨hascending, hcanonical⟩
    have hmembers : Table.ofList ms = ms := Table.ofList_eq_self_iff.mpr
      ((Table.ascending_congr hnames).mpr hascending)
    rw [hmembers]
    exact (fieldTrees_eq_iff hfields h).mpr hcanonical

/-- The object of fields is the tree of their JSON value under the
condition. -/
theorem tree_object_eq_iff {fields : List (String × Datum)}
    {ms : List (String × Json)} (hfields : ∀ f ∈ fields, f.2.Decided)
    (h : fieldsJson fields = .ok ms) :
    Tree.object (fieldTrees fields) = (Json.ofMembers ms).tree
      ↔ Table.Ascending fields ∧ ∀ f ∈ fields, f.2.Canonical := by
  rw [Json.ofMembers, Json.tree, Tree.object.injEq]
  exact fieldTrees_eq_sorted_iff hfields h

/-- The trees of the two ways are one exactly for a canonical datum. -/
theorem tree_eq_iff_canonical (d : Datum) : d.Decided := by
  induction d using induction with
  | unit =>
    intro v h
    obtain rfl : Json.null = v := Except.ok.inj h
    exact iff_of_true rfl .unit
  | bool b =>
    intro v h
    obtain rfl : Json.bool b = v := Except.ok.inj h
    exact iff_of_true rfl (.bool b)
  | whole n =>
    intro v h
    rw [toJson] at h
    split at h
    · obtain rfl : Json.number (.whole n) = v := Except.ok.inj h
      exact iff_of_true rfl (.whole n)
    · cases h
  | single x =>
    intro v h
    obtain rfl : numberJson x.widen = v := Except.ok.inj h
    rw [tree, tree_numberJson, Tree.word.injEq]
    constructor
    · intro hword
      have hchars := congrArg Word.chars hword
      rw [Word.chars_ofBinary, Word.chars_ofBinary] at hchars
      exact .single (String.toList_inj.mp hchars)
    · intro hcanonical
      cases hcanonical with
      | single htext =>
        apply Word.ext_chars
        rw [Word.chars_ofBinary, Word.chars_ofBinary, htext]
  | double x =>
    intro v h
    obtain rfl : numberJson x = v := Except.ok.inj h
    exact iff_of_true (tree_numberJson x).symm (.double x)
  | text s =>
    intro v h
    obtain rfl : Json.string s = v := Except.ok.inj h
    exact iff_of_true rfl (.text s)
  | sequence items ih =>
    intro v h
    rw [toJson] at h
    obtain ⟨vs, hvs, rfl⟩ := exists_of_map_eq_ok h
    rw [tree, Json.tree, Tree.array.injEq, itemTrees_eq_iff ih hvs]
    constructor
    · exact .sequence
    · intro hcanonical
      cases hcanonical with
      | sequence hitems => exact hitems
  | record fields ih =>
    intro v h
    rw [toJson] at h
    obtain ⟨ms, hms, rfl⟩ := exists_of_map_eq_ok h
    rw [tree, tree_object_eq_iff ih hms]
    constructor
    · rintro ⟨hnames, hfields⟩
      exact .record hnames hfields
    · intro hcanonical
      cases hcanonical with
      | record hnames hfields => exact ⟨hnames, hfields⟩
  | map entries ih =>
    intro v h
    rw [toJson] at h
    obtain ⟨ms, hms, rfl⟩ := exists_of_map_eq_ok h
    obtain ⟨-, hfields⟩ := fieldsJson_of_entriesJson hms
    have hnamed : ∀ f ∈ named entries, f.2.Decided :=
      forall_named.mpr ih
    rw [tree, entryTrees_eq_fieldTrees, tree_object_eq_iff hnamed hfields]
    constructor
    · rintro ⟨hnames, hcanonical⟩
      exact .map hnames (forall_named.mp hcanonical)
    · intro hcanonical
      cases hcanonical with
      | map hnames hentries =>
        exact ⟨hnames, forall_named.mpr hentries⟩

/-! ## Keys -/

/-- The JSON texts of the two ways agree exactly for a canonical datum. -/
theorem jsonText_eq_render_iff {d : Datum} {v : Json}
    (h : d.toJson = .ok v) : d.keyJson.text = v.render ↔ d.Canonical := by
  rw [keyJson, d.writtenAsTree v h, Json.render_eq_text,
    ← d.tree_eq_iff_canonical v h]
  exact Tree.text_inj

/-- The key functions of a datum that has a JSON form and of the value that
is stored for it.  Those on segments always agree, and all of them agree
exactly if the datum is canonical. -/
theorem agrees_iff_canonical {d : Datum} {v : Json} (h : d.toJson = .ok v)
    (args : Arguments) (name : String) :
    let stored := (args.store name d).resolve ⟨name, []⟩
    (d.keyText .lower).text = KeyFunction.lower.apply stored
      ∧ (d.keyText .upper).text = KeyFunction.upper.apply stored
      ∧ ((∀ f : KeyFunction, (d.keyText f).text = f.apply stored)
          ↔ d.Canonical) := by
  have hstored : (args.store name d).resolve ⟨name, []⟩ = v := by
    simp [Arguments.store, Arguments.resolve, Arguments.follow, stored, h,
      Except.toOption]
  have hsegment : d.segment.text = v.segment := by
    rw [segment, h]
  have hlower : (d.keyText .lower).text = KeyFunction.lower.apply v := by
    simp [keyText, KeyFunction.apply, KeyFunction.combine, hsegment]
  have hupper : (d.keyText .upper).text = KeyFunction.upper.apply v := by
    simp [keyText, KeyFunction.apply, KeyFunction.combine, hsegment]
  rw [hstored]
  refine ⟨hlower, hupper, ?_⟩
  rw [← jsonText_eq_render_iff h]
  constructor
  · intro hall
    exact hall .json
  · intro hjson f
    cases f with
    | base64Json =>
      simp [keyText, KeyFunction.apply, KeyFunction.combine, hjson]
    | json => exact hjson
    | sha256 =>
      simp [keyText, KeyFunction.apply, KeyFunction.combine, hjson]
    | lower => exact hlower
    | upper => exact hupper

/-- A record whose names ascend enters every key function alike. -/
theorem agrees_on_sorted_record :
    let d : Datum := .record [("active", .bool true), ("name", .text "x")]
    d.toJson = .ok (.object [("active", .bool true), ("name", .string "x")])
      ∧ ∀ f : KeyFunction, (d.keyText f).text = f.apply
        ((Arguments.store [] "filter" d).resolve ⟨"filter", []⟩) := by
  refine ⟨rfl, (agrees_iff_canonical rfl [] "filter").2.2.mpr
    (.record ?_ ?_)⟩
  · have hlt : "active" < "name" := by decide
    simpa [Table.Ascending] using hlt
  · have hactive : Canonical (.bool true) := .bool true
    have hname : Canonical (.text "x") := .text "x"
    simp [hactive, hname]

/-- The same record in another order does not. -/
theorem disagrees_on_unsorted_record :
    let d : Datum := .record [("name", .text "x"), ("active", .bool true)]
    d.toJson = .ok (.object [("active", .bool true), ("name", .string "x")])
      ∧ (d.keyText .json).text ≠ KeyFunction.json.apply
        ((Arguments.store [] "filter" d).resolve ⟨"filter", []⟩) := by
  refine ⟨rfl, ?_⟩
  decide

/-- The single nearest to a tenth is written as `0.1`, and stored as the
double `0.10000000149011612`. -/
example : numberText jsonSingleLayout Format.single
        (.finite false 13421773 (-27)) = "0.1"
      ∧ numberText jsonLayout Format.double
        (Binary.widen (.finite false 13421773 (-27)))
          = "0.10000000149011612" := by
  decide +kernel

end Datum

end PolicyWeave
