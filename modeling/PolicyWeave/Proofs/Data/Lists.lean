import Mathlib.Data.List.Basic
import Mathlib.Data.List.Nodup

/-!
# Lists

Facts about lists of any kind, for the modules about constants, reports and
written texts.
-/

namespace PolicyWeave

variable {α : Type}

/-- Items differ in name exactly if each is the only one of its name. -/
theorem nodup_map_iff_filter {name : α → String} {xs : List α} :
    (xs.map name).Nodup ↔
      ∀ x ∈ xs, xs.filter (fun y => name y == name x) = [x] := by
  induction xs with
  | nil => simp
  | cons a xs ih =>
    have hself : (a :: xs).filter (fun y => name y == name a)
        = a :: xs.filter (fun y => name y == name a) := by
      simp
    have hfirst : name a ∉ xs.map name ↔
        xs.filter (fun y => name y == name a) = [] := by
      simp [List.filter_eq_nil_iff]
    rw [List.map_cons, List.nodup_cons, List.forall_mem_cons, hself,
      List.cons_eq_cons, hfirst, ih]
    simp only [true_and]
    refine and_congr_right fun hnone => forall₂_congr fun x hx => ?_
    have hne : name a ≠ name x := fun heq =>
      List.filter_eq_nil_iff.mp hnone x hx (beq_iff_eq.mpr heq.symm)
    rw [List.filter_cons_of_neg (by simpa using hne)]

/-- The last of three lists may come before the second one. -/
theorem append_append_perm (front back last : List α) :
    (front ++ back ++ last).Perm (front ++ last ++ back) := by
  simpa only [List.append_assoc] using
    List.perm_append_comm.append_left front

/-- What stands in a list of parts stands in the separator or in a part. -/
theorem mem_or_exists_of_mem_intercalate {sep : List α}
    {parts : List (List α)} {a : α} (h : a ∈ sep.intercalate parts) :
    a ∈ sep ∨ ∃ part ∈ parts, a ∈ part := by
  induction parts with
  | nil => simp at h
  | cons part parts ih =>
    cases parts with
    | nil => exact .inr ⟨part, List.mem_cons_self, by simpa using h⟩
    | cons next parts =>
      rw [List.intercalate_cons_cons, List.mem_append, List.mem_append] at h
      rcases h with (h | h) | h
      · exact .inr ⟨part, List.mem_cons_self, h⟩
      · exact .inl h
      · exact (ih h).imp_right fun ⟨other, hother, ha⟩ =>
          ⟨other, List.mem_cons_of_mem part hother, ha⟩

end PolicyWeave
