import PolicyWeave.Proofs.Template.Grammar
import PolicyWeave.Proofs.Text.Runs

/-!
# Texts without blanks at their ends

`Text.trim` is known from what it leaves: a piece of the text with blanks
only around it and none at its own ends.  There is one such piece.
-/

namespace PolicyWeave.Text

variable {cs t : List Char}

/-- A text is its blanks and what is left without them. -/
theorem exists_blank_append_trimStart (cs : List Char) :
    ∃ gap, Blank gap ∧ cs = gap ++ trimStart cs :=
  ⟨cs.takeWhile isBlank, fun _ => List.mem_takeWhile_imp,
    List.takeWhile_append_dropWhile.symm⟩

theorem head_trimStart (cs : List Char) :
    ∀ c ∈ (trimStart cs).head?, isBlank c = false := by
  intro c hc
  have hstop := List.head?_dropWhile_not isBlank cs
  rwa [show (cs.dropWhile isBlank).head? = some c from hc] at hstop

/-- A text, and the same without the blanks at its ends. -/
structure Trimmed (cs t : List Char) : Prop where
  around : ∃ before after, Blank before ∧ Blank after
    ∧ cs = before ++ (t ++ after)
  head : ∀ c ∈ t.head?, isBlank c = false
  last : ∀ c ∈ t.getLast?, isBlank c = false

theorem trimmed_trim (cs : List Char) : Trimmed cs (trim cs) := by
  obtain ⟨before, hbefore, hcs⟩ := exists_blank_append_trimStart cs
  obtain ⟨after, hafter, hfront⟩ :=
    exists_blank_append_trimStart (trimStart cs).reverse
  have hends : trimStart cs = trim cs ++ after.reverse := by
    rw [← List.reverse_inj, List.reverse_append, List.reverse_reverse,
      trim, trimEnd, List.reverse_reverse]
    exact hfront
  refine ⟨⟨before, after.reverse, hbefore, ?_, ?_⟩, ?_, ?_⟩
  · exact fun c hc => hafter c (List.mem_reverse.mp hc)
  · rw [← hends]
    exact hcs
  · intro c hc
    refine head_trimStart cs c ?_
    rw [hends]
    exact List.mem_head?_append_of_mem_head? hc
  · rw [trim, trimEnd, List.getLast?_reverse]
    exact head_trimStart _

theorem trim_eq_iff : trim cs = t ↔ Trimmed cs t := by
  constructor
  · rintro rfl
    exact trimmed_trim cs
  · rintro ⟨⟨before, after, hbefore, hafter, rfl⟩, hhead, hlast⟩
    cases t with
    | nil =>
      -- nothing is left of a text of blanks
      have hnone : trimStart (before ++ ([] ++ after)) = [] :=
        List.dropWhile_eq_nil_iff.mpr
          (List.forall_mem_append.mpr ⟨hbefore, hafter⟩)
      rw [trim, hnone]
      rfl
    | cons c t =>
      have hstart : trimStart (before ++ (c :: t ++ after))
          = c :: t ++ after :=
        dropWhile_append_of_head hbefore (by simpa using hhead)
      have hend : trimStart (c :: t ++ after).reverse = (c :: t).reverse := by
        rw [List.reverse_append]
        refine dropWhile_append_of_head
          (fun d hd => hafter d (List.mem_reverse.mp hd)) ?_
        rwa [List.head?_reverse]
      rw [trim, hstart, trimEnd, hend, List.reverse_reverse]

end PolicyWeave.Text
