import Mathlib.Data.List.TakeWhile

/-!
# Runs of characters

A run is a text whose characters all belong to a class.  In front of
characters that do not continue it, a run is known from the whole.
-/

namespace PolicyWeave.Text

variable {p : Char → Bool} {run run' cs cs' : List Char}

/-- A run of characters of a class ends where they do. -/
theorem takeWhile_append_of_head (hrun : ∀ c ∈ run, p c = true)
    (hcs : ∀ c ∈ cs.head?, p c = false) :
    (run ++ cs).takeWhile p = run := by
  have hstop : cs.takeWhile p = [] := by
    cases cs with
    | nil => rfl
    | cons c cs => simp [hcs c (by simp)]
  rw [List.takeWhile_append_of_pos hrun, hstop, List.append_nil]

theorem dropWhile_append_of_head (hrun : ∀ c ∈ run, p c = true)
    (hcs : ∀ c ∈ cs.head?, p c = false) :
    (run ++ cs).dropWhile p = cs := by
  have hstop : cs.dropWhile p = cs := by
    cases cs with
    | nil => rfl
    | cons c cs => simp [hcs c (by simp)]
  rw [List.dropWhile_append_of_pos hrun, hstop]

/-- Two runs in one text are one run. -/
theorem run_append_inj (hrun : ∀ c ∈ run, p c = true)
    (hrun' : ∀ c ∈ run', p c = true)
    (hcs : ∀ c ∈ cs.head?, p c = false)
    (hcs' : ∀ c ∈ cs'.head?, p c = false)
    (h : run ++ cs = run' ++ cs') : run = run' ∧ cs = cs' := by
  constructor
  · rw [← takeWhile_append_of_head hrun hcs, h,
      takeWhile_append_of_head hrun' hcs']
  · rw [← dropWhile_append_of_head hrun hcs, h,
      dropWhile_append_of_head hrun' hcs']

end PolicyWeave.Text
