import Mathlib.Data.List.Forall2
import Mathlib.Tactic.Tauto
import PolicyWeave.Data.Reader
import PolicyWeave.Yaml.Printer

/-!
# Values that hold a tree

A value of a data format holds a tree if a reader takes it apart into the
texts, numbers, lists and records of the tree.  Nothing more is known of the
value, so what follows from it is true in every format.

* `Reader.holds` says so, and can be computed.
* `Reader.fields?_of_holds`: the fields of a record that holds a tree are
  those of the tree.  A field that the tree leaves out is missing.
* `required_of_holds`, `orDefault_of_holds`, `optional_of_holds` and
  `listOf_of_holds` decode what was encoded, for each way to read a field.
-/

namespace PolicyWeave.Reader

open Yaml (Tree)

variable {α β : Type}

/-! ## Trees in values -/

mutual

/-- Whether a value holds a tree.  A text may be read as a choice, and no
part of a tree is nothing. -/
def holds (r : Reader α) : Tree → α → Bool
  | .text s, v =>
    r.text? v == some s && r.choice? v == some s
      && r.nothing? v == some false
  | .number x, v => r.number? v == some x && r.nothing? v == some false
  | .list ts, v =>
    (r.list? v).any (holdsItems r ts) && r.nothing? v == some false
  | .record ms, v =>
    (match r.record? v with
      | some (.named vs) => holdsMembers r ms vs
      | _ => false)
      && r.nothing? v == some false

/-- Whether values hold the trees of a list, one each. -/
def holdsItems (r : Reader α) : List Tree → List α → Bool
  | [], [] => true
  | t :: ts, v :: vs => holds r t v && holdsItems r ts vs
  | _, _ => false

/-- Whether named values hold the members of a record, one each. -/
def holdsMembers (r : Reader α) :
    List (String × Tree) → List (String × α) → Bool
  | [], [] => true
  | (k, t) :: ms, (k', v) :: vs =>
    k == k' && holds r t v && holdsMembers r ms vs
  | _, _ => false

end

/-- Whether a field holds a tree that may be left out. -/
def holdsField (r : Reader α) : Option Tree → Option α → Bool
  | none, none => true
  | some t, some v => r.holds t v
  | _, _ => false

/-! ## Fields of a record -/

/-- The members of a record of which each field may be left out. -/
def present (fields : List (String × Option Tree)) : List (String × Tree) :=
  fields.filterMap fun f => f.2.map fun t => (f.1, t)

theorem map_fst_present_sublist (fields : List (String × Option Tree)) :
    ((present fields).map Prod.fst).Sublist (fields.map Prod.fst) := by
  induction fields with
  | nil => exact .slnil
  | cons f fields ih =>
    obtain ⟨name, t⟩ := f
    cases t with
    | none => exact ih.cons name
    | some t => exact ih.cons_cons name

/-- The member of the name of a field is that field, if it is there. -/
theorem lookup_present {fields : List (String × Option Tree)}
    (hnames : (fields.map Prod.fst).Nodup) {f : String × Option Tree}
    (hf : f ∈ fields) : (present fields).lookup f.1 = f.2 := by
  induction fields with
  | nil => cases hf
  | cons g fields ih =>
    obtain ⟨hfresh, hrest⟩ := List.nodup_cons.mp hnames
    obtain ⟨name, t⟩ := g
    rcases List.mem_cons.mp hf with rfl | hmem
    · cases t with
      | some t => simp [present]
      | none =>
        -- No later field has the name of the one that is left out.
        refine List.lookup_eq_none_iff.mpr fun m hm => bne_iff_ne.mpr ?_
        rintro rfl
        exact hfresh
          ((map_fst_present_sublist fields).subset (List.mem_map_of_mem hm))
    · have hin : f.1 ∈ fields.map Prod.fst := List.mem_map_of_mem hmem
      have hne : (f.1 == name) = false :=
        beq_false_of_ne fun heq => hfresh (heq ▸ hin)
      cases t with
      | some t => simpa [present, List.lookup_cons, hne] using ih hrest hmem
      | none => simpa [present] using ih hrest hmem

section

variable {r : Reader α}

theorem map_fst_of_holdsMembers {ms : List (String × Tree)}
    {vs : List (String × α)} (h : r.holdsMembers ms vs = true) :
    ms.map Prod.fst = vs.map Prod.fst := by
  induction ms generalizing vs with
  | nil =>
    cases vs with
    | nil => rfl
    | cons => cases h
  | cons m ms ih =>
    cases vs with
    | nil => cases h
    | cons v vs =>
      simp only [holdsMembers, Bool.and_eq_true, beq_iff_eq] at h
      obtain ⟨⟨hname, -⟩, hrest⟩ := h
      rw [List.map_cons, List.map_cons, hname, ih hrest]

theorem namesFit_iff {names : List String} {ms : List (String × α)} :
    namesFit names ms = true ↔
      (∀ k ∈ ms.map Prod.fst, k ∈ names) ∧ (ms.map Prod.fst).Nodup := by
  induction ms with
  | nil => simp [namesFit]
  | cons m ms ih =>
    have hfresh : (ms.any fun n => n.1 == m.1) = false ↔
        m.1 ∉ ms.map Prod.fst := by
      simp only [List.any_eq_false, beq_iff_eq, List.mem_map, not_exists,
        not_and]
    rw [namesFit, Bool.and_eq_true, Bool.and_eq_true, Bool.not_eq_true',
      hfresh, ih, List.map_cons, List.forall_mem_cons, List.nodup_cons,
      List.contains_iff_mem]
    tauto

/-- A member of a record holds the member of the tree that has its name. -/
theorem holdsField_lookup {ms : List (String × Tree)}
    {vs : List (String × α)} (h : r.holdsMembers ms vs = true)
    (name : String) :
    r.holdsField (ms.lookup name) (vs.lookup name) = true := by
  induction ms generalizing vs with
  | nil =>
    cases vs with
    | nil => rfl
    | cons => cases h
  | cons m ms ih =>
    cases vs with
    | nil => cases h
    | cons v vs =>
      simp only [holdsMembers, Bool.and_eq_true, beq_iff_eq] at h
      obtain ⟨⟨hname, hvalue⟩, hrest⟩ := h
      obtain ⟨k, t⟩ := m
      obtain ⟨k', v⟩ := v
      obtain rfl : k = k' := hname
      by_cases heq : name = k
      · simpa [heq, holdsField] using hvalue
      · have hne : (name == k) = false := by simpa using heq
        simpa [List.lookup_cons, hne] using ih hrest

/-- The fields of a record that holds the fields that are there, in their
order. -/
theorem fields?_of_holds {fields : List (String × Option Tree)} {v : α}
    (hnames : (fields.map Prod.fst).Nodup)
    (h : r.holds (.record (present fields)) v = true) :
    ∃ ws, r.fields? (fields.map Prod.fst) v = some ws
      ∧ List.Forall₂ (fun f w => r.holdsField f.2 w = true) fields ws := by
  simp only [holds, Bool.and_eq_true] at h
  obtain ⟨hmembers, -⟩ := h
  split at hmembers
  · rename_i vs hrecord
    have hdeclared := map_fst_present_sublist fields
    rw [map_fst_of_holdsMembers hmembers] at hdeclared
    have hfit : namesFit (fields.map Prod.fst) vs = true :=
      namesFit_iff.mpr ⟨fun k hk => hdeclared.subset hk, hdeclared.nodup hnames⟩
    refine ⟨fields.map fun f => vs.lookup f.1, ?_, ?_⟩
    · simp [fields?, hrecord, hfit]
    · refine List.forall₂_map_right_iff.mpr (List.forall₂_same.mpr ?_)
      intro f hf
      have hfield := holdsField_lookup hmembers f.1
      rwa [lookup_present hnames hf] at hfield
  · cases hmembers

/-! ## Reading fields -/

variable {f : β → Tree} {g : α → Option β} {v : Option α} {x : β}

/-- A field that is there is read. -/
theorem exists_of_holdsField {t : Tree} (h : r.holdsField (some t) v = true) :
    ∃ w, v = some w ∧ r.holds t w = true := by
  cases v with
  | none => cases h
  | some w => exact ⟨w, rfl, h⟩

theorem required_of_holds (h : r.holdsField (some (f x)) v = true)
    (hread : ∀ w, r.holds (f x) w = true → g w = some x) :
    required g v = some x := by
  obtain ⟨w, rfl, hw⟩ := exists_of_holdsField h
  exact hread w hw

theorem orDefault_of_holds (dflt : β)
    (h : r.holdsField (some (f x)) v = true)
    (hread : ∀ w, r.holds (f x) w = true → g w = some x) :
    orDefault dflt g v = some x := by
  obtain ⟨w, rfl, hw⟩ := exists_of_holdsField h
  exact hread w hw

/-- No part of a tree is nothing. -/
theorem nothing?_of_holds {t : Tree} {w : α} (h : r.holds t w = true) :
    r.nothing? w = some false := by
  cases t <;> simp_all [holds]

/-- A field that may be missing is read as missing exactly if the tree
leaves it out. -/
theorem optional_of_holds {x : Option β}
    (h : r.holdsField (x.map f) v = true)
    (hread : ∀ y ∈ x, ∀ w, r.holds (f y) w = true → g w = some y) :
    r.optional g v = some x := by
  cases x with
  | none =>
    cases v with
    | none => rfl
    | some => cases h
  | some y =>
    obtain ⟨w, rfl, hw⟩ := exists_of_holdsField h
    simp [optional, nothing?_of_holds hw, hread y rfl w hw]

/-- The items of a list are read one by one. -/
theorem mapM_of_holdsItems {xs : List β} {ws : List α}
    (h : r.holdsItems (xs.map f) ws = true)
    (hread : ∀ y ∈ xs, ∀ w, r.holds (f y) w = true → g w = some y) :
    ws.mapM g = some xs := by
  induction xs generalizing ws with
  | nil =>
    cases ws with
    | nil => rfl
    | cons => cases h
  | cons x xs ih =>
    cases ws with
    | nil => cases h
    | cons w ws =>
      simp only [List.map_cons, holdsItems, Bool.and_eq_true] at h
      obtain ⟨hx, hxs⟩ := h
      have hrest := ih hxs fun y hy => hread y (List.mem_cons_of_mem x hy)
      rw [List.mapM_cons, hread x List.mem_cons_self w hx, hrest]
      rfl

theorem listOf_of_holds {xs : List β} {w : α}
    (h : r.holds (.list (xs.map f)) w = true)
    (hread : ∀ y ∈ xs, ∀ w, r.holds (f y) w = true → g w = some y) :
    r.listOf g w = some xs := by
  simp only [holds, Bool.and_eq_true, Option.any_eq_true] at h
  obtain ⟨⟨ws, hlist, hitems⟩, -⟩ := h
  simp [listOf, hlist, mapM_of_holdsItems hitems hread]

end

end PolicyWeave.Reader
