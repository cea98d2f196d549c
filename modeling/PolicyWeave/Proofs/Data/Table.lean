import Mathlib.Order.RelClasses
import PolicyWeave.Data.Table

/-!
# The order of tables

`Table.ofList` sorts its pairs, and leaves alone what is sorted already.
So it gives a list back exactly if the keys of the list ascend.
-/

namespace PolicyWeave.Table

variable {κ α : Type} [LT κ]

/-- Whether the keys ascend, so that each comes once. -/
def Ascending (t : List (κ × α)) : Prop :=
  t.Pairwise fun p q => p.1 < q.1

theorem ascending_cons {p : κ × α} {t : List (κ × α)} :
    Ascending (p :: t) ↔ (∀ q ∈ t, p.1 < q.1) ∧ Ascending t :=
  List.pairwise_cons

/-- Whether keys ascend is known from the keys. -/
theorem ascending_congr {β : Type} {t : List (κ × α)} {u : List (κ × β)}
    (h : t.map Prod.fst = u.map Prod.fst) : Ascending t ↔ Ascending u := by
  have hkeys {γ : Type} (s : List (κ × γ)) :
      Ascending s ↔ (s.map Prod.fst).Pairwise (· < ·) :=
    List.pairwise_map.symm
  rw [hkeys t, hkeys u, h]

variable [DecidableLT κ] [DecidableEq κ] [IsStrictTotalOrder κ (· < ·)]

omit [IsStrictTotalOrder κ (· < ·)] in
/-- A key of a table with one more is the new one or an old one. -/
theorem fst_mem_insert {key : κ} {value : α} {t : List (κ × α)}
    {p : κ × α} (h : p ∈ insert key value t) :
    p.1 = key ∨ p ∈ t := by
  fun_induction insert key value t <;> grind

/-- A table with one more key is a table. -/
theorem Ascending.insert {t : List (κ × α)} (h : Ascending t) (key : κ)
    (value : α) : Ascending (Table.insert key value t) := by
  fun_induction Table.insert key value t with
  | case1 => exact List.pairwise_singleton ..
  | case2 k v rest hlt =>
    refine ascending_cons.mpr ⟨?_, h⟩
    intro q hq
    obtain ⟨hrest, -⟩ := ascending_cons.mp h
    rcases List.mem_cons.mp hq with rfl | hq
    · exact hlt
    · exact trans_of (· < ·) hlt (hrest q hq)
  | case3 v rest =>
    obtain ⟨hrest, htail⟩ := ascending_cons.mp h
    exact ascending_cons.mpr ⟨hrest, htail⟩
  | case4 k v rest hlt hne ih =>
    obtain ⟨hrest, htail⟩ := ascending_cons.mp h
    have hgt : k < key := by
      rcases trichotomous_of (· < ·) k key with hk | hk | hk
      · exact hk
      · exact absurd hk.symm hne
      · exact absurd hk hlt
    refine ascending_cons.mpr ⟨?_, ih htail⟩
    intro q hq
    rcases fst_mem_insert hq with heq | hq
    · rw [heq]
      exact hgt
    · exact hrest q hq

/-- A key above all others goes to the end. -/
theorem insert_eq_append {key : κ} {t : List (κ × α)}
    (h : ∀ p ∈ t, p.1 < key) (value : α) :
    insert key value t = t ++ [(key, value)] := by
  induction t with
  | nil => rfl
  | cons p t ih =>
    obtain ⟨hp, ht⟩ := List.forall_mem_cons.mp h
    have hlt : ¬ key < p.1 := asymm hp
    have hne : key ≠ p.1 := by
      intro heq
      rw [heq] at hp
      exact irrefl _ hp
    simp [insert, hlt, hne, ih ht]

private theorem foldl_insert_of_ascending (s t : List (κ × α))
    (h : Ascending (s ++ t)) :
    t.foldl (fun s p => insert p.1 p.2 s) s = s ++ t := by
  induction t generalizing s with
  | nil => simp
  | cons p t ih =>
    have hs : ∀ q ∈ s, q.1 < p.1 := fun q hq =>
      (List.pairwise_append.mp h).2.2 q hq p (by simp)
    rw [List.foldl_cons, insert_eq_append hs]
    rw [ih (s ++ [p]) (by simpa using h)]
    simp

private theorem ascending_foldl_insert (s t : List (κ × α))
    (h : Ascending s) :
    Ascending (t.foldl (fun s p => insert p.1 p.2 s) s) := by
  induction t generalizing s with
  | nil => exact h
  | cons p t ih => exact ih _ (h.insert p.1 p.2)

/-- The table of any pairs ascends. -/
theorem ascending_ofList (pairs : List (κ × α)) :
    Ascending (ofList pairs) :=
  ascending_foldl_insert [] pairs List.Pairwise.nil

/-- Sorting gives back exactly the lists whose keys ascend. -/
theorem ofList_eq_self_iff {pairs : List (κ × α)} :
    ofList pairs = pairs ↔ Ascending pairs := by
  constructor
  · intro h
    rw [← h]
    exact ascending_ofList pairs
  · exact foldl_insert_of_ascending [] pairs

end PolicyWeave.Table
