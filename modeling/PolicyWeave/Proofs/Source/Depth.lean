import PolicyWeave.Proofs.Source.Emission
import PolicyWeave.Proofs.Source.Writing

/-!
# Depth of emitted code

An emitter leaves the depth of its writer alone, and what it writes looks the
same at every depth but for its indent.  The writer does not see to that: it
takes steps that open and steps that close in any order, and a step that
closes too much is cut off at depth zero.

* `Text.indented` moves the lines of a text.
* `WriterStep.DepthFree` says this of steps: the depth comes back, no step
  that closes is met at the depth where the steps began, and the text is the
  one of depth zero, moved.
* `Code.depthFree`: the steps of a tree of code are of this kind.
* `ContractPlan.emitters_depthFree`: so are the steps of every emitter, since
  they are the steps of a tree.
-/

namespace PolicyWeave

/-! ## Indented texts -/

namespace Text

/-- A text with `n` blanks in front of each line that is not empty. -/
def indented (n : Nat) (cs : List Char) : List Char :=
  List.intercalate ['\n']
    ((splitOn '\n' cs).map fun line =>
      if line.isEmpty then [] else List.replicate n ' ' ++ line)

/-- Lines that each have their end are parted by it, up to an empty one. -/
theorem intercalate_append_nil (ls : List (List Char)) :
    List.intercalate ['\n'] (ls ++ [[]]) = unlines ls := by
  induction ls with
  | nil => rfl
  | cons line ls ih =>
    obtain ⟨next, rest, hnext⟩ : ∃ next rest, ls ++ [[]] = next :: rest :=
      List.exists_cons_of_ne_nil (by simp)
    rw [List.cons_append, hnext, List.intercalate_cons_cons, ← hnext, ih]
    simp [unlines]

/-- Lines are moved one by one. -/
theorem indented_unlines (depth : Nat) {ls : List (List Char)}
    (h : ∀ line ∈ ls, '\n' ∉ line) :
    indented (4 * depth) (unlines ls)
      = unlines (ls.map (Writer.placed depth)) := by
  have hsplit : splitOn '\n' (unlines ls) = ls ++ [[]] := by
    simpa [splitOn] using splitOn_unlines h []
  rw [indented, hsplit, List.map_append, ← intercalate_append_nil]
  rfl

end Text

/-! ## Steps -/

/-- Whether a step makes its writer less deep. -/
def WriterStep.Closes : WriterStep → Prop
  | closeBlock _ => True
  | dedent => True
  | _ => False

namespace Writer

/-- Whether steps meet those that close deeper than `floor`. -/
def StaysAbove (floor : Nat) (w : Writer) : List WriterStep → Prop
  | [] => True
  | s :: rest => (s.Closes → floor < w.depth) ∧ StaysAbove floor (w.step s) rest

variable {floor : Nat} {w : Writer} {xs ys : List WriterStep}

theorem StaysAbove.mono {floor' : Nat} (hfloor : floor' ≤ floor)
    (h : StaysAbove floor w xs) : StaysAbove floor' w xs := by
  induction xs generalizing w with
  | nil => trivial
  | cons s rest ih =>
    exact ⟨fun hcloses => Nat.lt_of_le_of_lt hfloor (h.1 hcloses), ih h.2⟩

theorem StaysAbove.append (hxs : StaysAbove floor w xs)
    (hys : StaysAbove floor (w.run xs) ys) :
    StaysAbove floor w (xs ++ ys) := by
  induction xs generalizing w with
  | nil => exact hys
  | cons s rest ih => exact ⟨hxs.1, ih hxs.2 hys⟩

/-- Steps between one that opens and one that closes again. -/
theorem StaysAbove.enclosed {body : List WriterStep} {s e : WriterStep}
    (hs : ¬ s.Closes) (hdepth : (w.step s).depth = w.depth + 1)
    (hkeeps : ((w.step s).run body).depth = (w.step s).depth)
    (hbody : StaysAbove (w.step s).depth (w.step s) body) :
    StaysAbove w.depth w (s :: body ++ [e]) := by
  refine ⟨fun hcloses => absurd hcloses hs, ?_⟩
  refine (hbody.mono (by omega)).append ⟨fun _ => ?_, trivial⟩
  omega

end Writer

/-- What steps do that fit every depth.  The writer may hold any text. -/
structure WriterStep.DepthFree (steps : List WriterStep) : Prop where
  /-- The depth is what it was. -/
  depth : ∀ w : Writer, (w.run steps).depth = w.depth
  /-- A step that closes is met deeper than the steps began, so the depth is
  never cut off at zero. -/
  above : ∀ w : Writer, w.StaysAbove w.depth steps
  /-- The text is the one written at depth zero, moved to the depth. -/
  text : ∀ w : Writer, (w.run steps).text
    = w.text ++ String.ofList
        (Text.indented (4 * w.depth) (Writer.empty.run steps).text.toList)

/-- Steps that fit every depth do not begin with one that closes. -/
theorem WriterStep.DepthFree.not_closes_head {s : WriterStep}
    {rest : List WriterStep} (h : DepthFree (s :: rest)) : ¬ s.Closes :=
  fun hcloses => Nat.lt_irrefl 0 ((h.above Writer.empty).1 hcloses)

/-! ## Trees of code -/

namespace Code

open Writer (StaysAbove)

mutual

/-- The blocks of a piece of code are opened before they are closed. -/
theorem staysAbove_steps (w : Writer) (c : Code) :
    w.StaysAbove w.depth c.steps := by
  cases c with
  | line text => exact ⟨nofun, trivial⟩
  | blank => exact ⟨nofun, trivial⟩
  | block head body tail =>
    have hkeeps := Writer.run_stepsOf (w.step (.openBlock head)) body
    exact .enclosed nofun rfl (by rw [hkeeps]; rfl) (staysAbove_stepsOf _ body)
  | deeper body =>
    have hkeeps := Writer.run_stepsOf (w.step .indent) body
    exact .enclosed nofun rfl (by rw [hkeeps]; rfl) (staysAbove_stepsOf _ body)

theorem staysAbove_stepsOf (w : Writer) (cs : List Code) :
    w.StaysAbove w.depth (stepsOf cs) := by
  cases cs with
  | nil => trivial
  | cons c rest =>
    have hkeeps : (w.run c.steps).depth = w.depth := by
      rw [Writer.run_steps]
      rfl
    refine (staysAbove_steps w c).append ?_
    rw [← hkeeps]
    exact staysAbove_stepsOf _ rest

end

/-- Every tree of code fits every depth. -/
theorem depthFree (cs : List Code) :
    WriterStep.DepthFree (stepsOf cs) where
  depth w := by
    rw [Writer.run_stepsOf]
    rfl
  above w := staysAbove_stepsOf w cs
  text w := by
    have htext : (Writer.empty.run (stepsOf cs)).text
        = String.ofList (Text.unlines (lines cs)) := text_eq cs
    rw [Writer.run_stepsOf, htext, String.toList_ofList,
      Text.indented_unlines w.depth fun _ => not_mem_of_mem_lines]
    rfl

end Code

/-! ## Emitters -/

/-- The emitters of the decorators, of the stack and of evictions fit every
depth.  This holds of any plan, whatever its names and types are made of. -/
theorem ContractPlan.emitters_depthFree (config : Config) (p : ContractPlan) :
    WriterStep.DepthFree (p.emitCacheDecorator config)
      ∧ WriterStep.DepthFree (p.emitTraceDecorator config)
      ∧ WriterStep.DepthFree (p.emitDelegator config)
      ∧ (∀ (runtime : String) (keys : List KeyTemplate),
        WriterStep.DepthFree (emitEvictList runtime keys))
      ∧ ∀ label : String, WriterStep.DepthFree (emitEvictOnSuccess label) := by
  refine ⟨?_, ?_, ?_, fun runtime keys => ?_, fun label => ?_⟩
  · rw [emitCacheDecorator_eq]
    exact Code.depthFree _
  · rw [emitTraceDecorator_eq]
    exact Code.depthFree _
  · rw [emitDelegator_eq]
    exact Code.depthFree _
  · rw [emitEvictList_eq]
    exact Code.depthFree _
  · rw [emitEvictOnSuccess_eq]
    exact Code.depthFree _

end PolicyWeave
