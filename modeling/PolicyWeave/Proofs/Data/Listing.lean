import Mathlib.Data.List.Forall2
import Mathlib.Data.List.Sort
import Mathlib.Data.Prod.Basic

/-!
# Listings

A report lists what was found at the places of some data.  It is whole and
in order if it has one item for each place where something was found, in
the order of the places, and no other items.

* `Listing before R bs` says so of the items `bs`, where `R` relates a
  place to what is found there.
* `listing_accumulate`, `listing_flatMap`, `listing_filterMap` and
  `listing_filter` are about lists that are gone through from the front.
  A place is an index, and in a nested list also a place within the item
  at that index.
* `Listing.unique`: no two lists are listings of the same finds.
-/

namespace PolicyWeave

variable {ι κ α β : Type}

/-- Whether `bs` is what `R` finds, place by place in their order. -/
def Listing (before : ι → ι → Prop) (R : ι → β → Prop) (bs : List β) :
    Prop :=
  ∃ places : List ι, places.Pairwise before
    ∧ (∀ i, i ∈ places ↔ ∃ b, R i b) ∧ List.Forall₂ R places bs

namespace Listing

variable {before : ι → ι → Prop} {R S : ι → β → Prop} {bs cs : List β}

/-- Only what is found counts. -/
theorem congr (h : Listing before R bs) (hiff : ∀ i b, R i b ↔ S i b) :
    Listing before S bs := by
  have heq : R = S := funext₂ fun i b => propext (hiff i b)
  rwa [← heq]

/-- Nothing is listed where nothing is found. -/
theorem nil (h : ∀ i b, ¬ R i b) : Listing before R [] := by
  refine ⟨[], .nil, ?_, .nil⟩
  intro i
  simp only [List.not_mem_nil, false_iff, not_exists]
  exact h i

/-- A listing is empty exactly if nothing is found. -/
theorem eq_nil_iff (h : Listing before R bs) :
    bs = [] ↔ ∀ i b, ¬ R i b := by
  constructor
  · rintro rfl i b hb
    obtain ⟨places, -, hmem, hall⟩ := h
    obtain rfl := List.forall₂_nil_right_iff.mp hall
    exact absurd ((hmem i).mpr ⟨b, hb⟩) List.not_mem_nil
  · intro hnone
    obtain ⟨places, -, hmem, hall⟩ := h
    cases hall with
    | nil => rfl
    | cons hb _ => exact absurd hb (hnone _ _)

/-- At one place there is at most one find. -/
theorem toList (before : ι → ι → Prop) (place : ι) (found : Option β) :
    Listing before (fun i b => i = place ∧ found = some b)
      found.toList := by
  cases found with
  | none => exact nil (by simp)
  | some b => exact ⟨[place], by simp, by simp, by simp⟩

/-- At one place something is found under a condition. -/
theorem ite (before : ι → ι → Prop) (place : ι) (P : Prop) [Decidable P]
    (b : β) :
    Listing before (fun i c => i = place ∧ P ∧ c = b)
      (if P then [b] else []) := by
  by_cases h : P
  · rw [if_pos h]
    exact (toList before place (some b)).congr (by simp [h, eq_comm])
  · rw [if_neg h]
    exact nil (by simp [h])

/-- What is found in something that may be missing. -/
theorem getD {f : α → List β} {R : α → ι → β → Prop}
    (h : ∀ a, Listing before (R a) (f a)) (found : Option α) :
    Listing before (fun i b => ∃ a, found = some a ∧ R a i b)
      ((found.map f).getD []) := by
  cases found with
  | none => exact nil (by simp)
  | some a => exact (h a).congr (by simp)

/-- Two listings make one if all places of the first come before those of
the second. -/
theorem append (hR : Listing before R bs) (hS : Listing before S cs)
    (hcross : ∀ i j b c, R i b → S j c → before i j) :
    Listing before (fun i b => R i b ∨ S i b) (bs ++ cs) := by
  obtain ⟨is, hisorted, himem, hi⟩ := hR
  obtain ⟨js, hjsorted, hjmem, hj⟩ := hS
  refine ⟨is ++ js, ?_, ?_, ?_⟩
  · refine List.pairwise_append.mpr ⟨hisorted, hjsorted, ?_⟩
    intro i hmem j hmem'
    obtain ⟨b, hb⟩ := (himem i).mp hmem
    obtain ⟨c, hc⟩ := (hjmem j).mp hmem'
    exact hcross i j b c hb hc
  · intro i
    rw [List.mem_append, himem, hjmem, exists_or]
  · exact List.rel_append (hi.imp fun _ _ => Or.inl)
      (hj.imp fun _ _ => Or.inr)

/-- A listing stays one when its places get other names in the same
order. -/
theorem map (after : κ → κ → Prop) (h : Listing before R bs) (g : ι → κ)
    (hg : ∀ i j, before i j → after (g i) (g j)) :
    Listing after (fun k b => ∃ i, g i = k ∧ R i b) bs := by
  obtain ⟨is, hsorted, hmem, hall⟩ := h
  refine ⟨is.map g, ?_, ?_, ?_⟩
  · exact List.pairwise_map.mpr (hsorted.imp (hg _ _))
  · intro k
    simp only [List.mem_map, hmem]
    constructor
    · rintro ⟨i, ⟨b, hb⟩, rfl⟩
      exact ⟨b, i, rfl, hb⟩
    · rintro ⟨b, i, rfl, hb⟩
      exact ⟨i, ⟨b, hb⟩, rfl⟩
  · exact List.forall₂_map_left_iff.mpr
      (hall.imp fun i _ hb => ⟨i, rfl, hb⟩)

/-- A listing stays one when the items are rewritten. -/
theorem image {γ : Type} (h : Listing before R bs) (f : β → γ) :
    Listing before (fun i c => ∃ b, R i b ∧ f b = c) (bs.map f) := by
  obtain ⟨is, hsorted, hmem, hall⟩ := h
  refine ⟨is, hsorted, ?_, ?_⟩
  · intro i
    rw [hmem]
    constructor
    · rintro ⟨b, hb⟩
      exact ⟨f b, b, hb, rfl⟩
    · rintro ⟨_, b, hb, -⟩
      exact ⟨b, hb⟩
  · exact List.forall₂_map_right_iff.mpr
      (hall.imp fun i b hb => ⟨b, hb, rfl⟩)

/-- The finds of one stage behind those of all earlier stages. -/
theorem append_stage {stage : ι → Nat}
    (hstage : ∀ i j, stage i < stage j → before i j) {k : Nat}
    (h : Listing before (fun i b => R i b ∧ stage i < k) bs)
    (hk : Listing before (fun i b => R i b ∧ stage i = k) cs) :
    Listing before (fun i b => R i b ∧ stage i < k + 1) (bs ++ cs) := by
  refine (h.append hk ?_).congr ?_
  · rintro i j b c ⟨-, hi⟩ ⟨-, rfl⟩
    exact hstage i j hi
  · intro i b
    rw [← and_or_left, ← Nat.lt_succ_iff_lt_or_eq]

/-- What is listed was found at some place, and the other way round. -/
theorem mem_iff (hR : ∀ i b c, R i b → R i c → b = c)
    (h : Listing before R bs) {b : β} : b ∈ bs ↔ ∃ i, R i b := by
  obtain ⟨places, -, hmem, hall⟩ := h
  have hpair : ∀ i b, R i b → i ∈ places → b ∈ bs := by
    clear hmem
    induction hall with
    | nil => simp
    | cons hc _ ih =>
      intro i b hb hi
      rcases List.mem_cons.mp hi with rfl | hi
      · rw [hR _ b _ hb hc]
        exact List.mem_cons_self
      · exact List.mem_cons_of_mem _ (ih i b hb hi)
  constructor
  · intro hb
    clear hmem hpair
    induction hall with
    | nil => cases hb
    | cons hc _ ih =>
      rcases List.mem_cons.mp hb with rfl | hb
      · exact ⟨_, hc⟩
      · exact ih hb
  · rintro ⟨i, hb⟩
    exact hpair i b hb ((hmem i).mpr ⟨b, hb⟩)

/-- No two lists are listings of the same finds. -/
theorem unique [Std.Irrefl before] [Std.Antisymm before]
    (hR : ∀ i b c, R i b → R i c → b = c) (h : Listing before R bs)
    (h' : Listing before R cs) : bs = cs := by
  obtain ⟨is, hisorted, himem, hi⟩ := h
  obtain ⟨js, hjsorted, hjmem, hj⟩ := h'
  obtain rfl : is = js := hisorted.eq_of_mem_iff hjsorted fun i =>
    (himem i).trans (hjmem i).symm
  exact List.right_unique_forall₂' (fun i b c => hR i b c) hi hj

end Listing

/-! ## Lists gone through from the front -/

/-- The finds of a list gone through with a state.  An item is looked at in
the state that those before it lead to. -/
theorem listing_accumulate {σ : Type} {before : κ → κ → Prop}
    {f : σ → α → List β} (next : σ → α → σ) (go : σ → List α → List β)
    {R : σ → α → κ → β → Prop}
    (h : ∀ s a, Listing before (R s a) (f s a)) (hnil : ∀ s, go s [] = [])
    (hcons : ∀ s a as, go s (a :: as) = f s a ++ go (next s a) as) (s : σ)
    (as : List α) :
    Listing (Prod.Lex (· < ·) before)
      (fun (place : Nat × κ) b => ∃ a, as[place.1]? = some a
        ∧ R ((as.take place.1).foldl next s) a place.2 b)
      (go s as) := by
  induction as generalizing s with
  | nil =>
    rw [hnil]
    exact .nil (by simp)
  | cons a as ih =>
    have hfirst := (h s a).map (Prod.Lex (· < ·) before)
      (fun k => ((0 : Nat), k)) fun _ _ => .right 0
    have hrest := (ih (next s a)).map (Prod.Lex (· < ·) before)
      (fun place => (place.1 + 1, place.2)) <| by
        rintro _ _ (⟨_, _, hlt⟩ | ⟨_, hbefore⟩)
        · exact .left _ _ (Nat.succ_lt_succ hlt)
        · exact .right _ hbefore
    rw [hcons]
    refine (hfirst.append hrest ?_).congr ?_
    · rintro _ _ b c ⟨k, rfl, -⟩ ⟨place, rfl, -⟩
      exact .left _ _ (Nat.succ_pos _)
    · rintro ⟨i, k⟩ b
      cases i with
      | zero => simp
      | succ i => simp

/-- The finds of a nested list: those of the first item, then those of the
others. -/
theorem listing_flatMap {before : κ → κ → Prop} {f : α → List β}
    {R : α → κ → β → Prop} (h : ∀ a, Listing before (R a) (f a))
    (as : List α) :
    Listing (Prod.Lex (· < ·) before)
      (fun (place : Nat × κ) b =>
        ∃ a, as[place.1]? = some a ∧ R a place.2 b)
      (as.flatMap f) :=
  listing_accumulate (fun _ _ => ()) (fun _ as => as.flatMap f)
    (fun _ a => h a) (fun _ => rfl) (fun _ _ _ => List.flatMap_cons) () as

/-- The finds of a list with at most one for each item. -/
theorem listing_filterMap (f : α → Option β) (as : List α) :
    Listing (· < ·)
      (fun (i : Nat) b => ∃ a, as[i]? = some a ∧ f a = some b)
      (as.filterMap f) := by
  have hitem (a : α) : Listing (fun _ _ : Unit => False)
      (fun _ b => f a = some b) (f a).toList :=
    (Listing.toList _ () (f a)).congr (by simp)
  have hall := (listing_flatMap hitem as).map (· < ·) Prod.fst <| by
      rintro _ _ (⟨_, _, hlt⟩ | ⟨_, hfalse⟩)
      · exact hlt
      · exact hfalse.elim
  rw [List.filterMap_eq_flatMap_toList]
  refine hall.congr ?_
  simp

/-- The finds of a list among the items of a kind. -/
theorem listing_filter (p : α → Bool) (g : α → β) (as : List α) :
    Listing (· < ·)
      (fun (i : Nat) b => ∃ a, as[i]? = some a ∧ p a = true ∧ b = g a)
      ((as.filter p).map g) := by
  have hmap : (as.filter p).map g
      = as.filterMap fun a => if p a then some (g a) else none := by
    induction as with
    | nil => rfl
    | cons a as ih => cases h : p a <;> simp [h, ih]
  rw [hmap]
  refine (listing_filterMap _ as).congr fun i b => ?_
  simp only [Option.ite_none_right_eq_some, Option.some.injEq]
  simp only [eq_comm]

end PolicyWeave
