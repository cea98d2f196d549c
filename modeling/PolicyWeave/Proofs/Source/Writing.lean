import PolicyWeave.Proofs.Text.Lines
import PolicyWeave.Source.Code

/-!
# Written code

The text of a tree of code, as lines.  A writer adds lines to its text: those
of the tree, each moved to the depth that the writer is at.

* `Code.lines` are the lines of a tree at depth zero.
* `Writer.code_eq` is the writer after a tree.  The depth is what it was.
* `Code.text_eq` is the text of a tree, and `Code.splitOn_text` finds the lines
  in it.
-/

namespace PolicyWeave

/-! ## Lines at a depth -/

namespace Writer

/-- A line at a depth.  An empty line has no indent. -/
def placed (depth : Nat) (line : List Char) : List Char :=
  if line.isEmpty then [] else List.replicate (4 * depth) ' ' ++ line

@[simp] theorem placed_zero : placed 0 = id := by
  funext line
  cases line <;> rfl

@[simp] theorem placed_nil (depth : Nat) : placed depth [] = [] := rfl

@[simp] theorem placed_placed (d e : Nat) (line : List Char) :
    placed d (placed e line) = placed (d + e) line := by
  cases line with
  | nil => rfl
  | cons c cs =>
    have hplaced : (List.replicate (4 * e) ' ' ++ c :: cs).isEmpty = false := by
      simp
    simp only [placed, List.isEmpty_cons, Bool.false_eq_true, if_false,
      hplaced, ← List.append_assoc, List.replicate_append_replicate]
    rw [Nat.mul_add]

theorem not_mem_placed {depth : Nat} {line : List Char} (h : '\n' ∉ line) :
    '\n' ∉ placed depth line := by
  rw [placed]
  split
  · exact List.not_mem_nil
  · simp [h]

/-- The lines of a text at a depth, each with its end. -/
theorem indentedLines_eq (depth : Nat) (text : String) :
    indentedLines depth text
      = Text.unlines ((Text.splitOn '\n' text.toList).map (placed depth)) := by
  rw [indentedLines, Text.unlines, List.flatMap_map]
  rfl

end Writer

/-! ## The lines of code -/

namespace Code

open Writer (placed)

mutual

/-- The lines of a piece of code at depth zero. -/
def pieceLines : Code → List (List Char)
  | line text => Text.splitOn '\n' text.toList
  | blank => [[]]
  | block head body tail =>
    Text.splitOn '\n' head.toList ++ (lines body).map (placed 1)
      ++ Text.splitOn '\n' tail.toList
  | deeper body => (lines body).map (placed 1)

/-- The lines of pieces one after another. -/
def lines : List Code → List (List Char)
  | [] => []
  | c :: rest => pieceLines c ++ lines rest

end

@[simp] theorem lines_append (cs ds : List Code) :
    lines (cs ++ ds) = lines cs ++ lines ds := by
  induction cs with
  | nil => rfl
  | cons c cs ih =>
    rw [List.cons_append, lines, lines, ih, List.append_assoc]

/-- Lines that are written one by one. -/
theorem lines_map_line {ls : List (List Char)} (h : ∀ l ∈ ls, '\n' ∉ l) :
    lines (ls.map fun l => line (String.ofList l)) = ls := by
  induction ls with
  | nil => rfl
  | cons l ls ih =>
    obtain ⟨hl, hls⟩ := List.forall_mem_cons.mp h
    rw [List.map_cons, lines, pieceLines, String.toList_ofList,
      Text.splitOn_eq_singleton hl, ih hls, List.singleton_append]

mutual

/-- No line holds a line end. -/
theorem not_mem_of_mem_pieceLines {c : Code} {l : List Char}
    (h : l ∈ pieceLines c) : '\n' ∉ l := by
  cases c with
  | line text => exact Text.not_mem_of_mem_splitOn h
  | blank => simp_all [pieceLines]
  | block head body tail =>
    rw [pieceLines, List.append_assoc, List.mem_append, List.mem_append,
      List.mem_map] at h
    rcases h with h | ⟨inner, h, rfl⟩ | h
    · exact Text.not_mem_of_mem_splitOn h
    · exact Writer.not_mem_placed (not_mem_of_mem_lines h)
    · exact Text.not_mem_of_mem_splitOn h
  | deeper body =>
    rw [pieceLines, List.mem_map] at h
    obtain ⟨inner, h, rfl⟩ := h
    exact Writer.not_mem_placed (not_mem_of_mem_lines h)

theorem not_mem_of_mem_lines {cs : List Code} {l : List Char}
    (h : l ∈ lines cs) : '\n' ∉ l := by
  cases cs with
  | nil => cases h
  | cons c rest =>
    rw [lines, List.mem_append] at h
    rcases h with h | h
    · exact not_mem_of_mem_pieceLines h
    · exact not_mem_of_mem_lines h

end

end Code

/-! ## Writing -/

namespace Writer

/-- The writer after lines at its depth. -/
def writeLines (w : Writer) (ls : List (List Char)) : Writer :=
  { w with text := w.text
      ++ String.ofList (Text.unlines (ls.map (placed w.depth))) }

theorem writeLines_append (w : Writer) (ls ms : List (List Char)) :
    w.writeLines (ls ++ ms) = (w.writeLines ls).writeLines ms := by
  simp [writeLines, String.ofList_append, String.append_assoc]

@[simp] theorem writeLines_nil (w : Writer) : w.writeLines [] = w := by
  simp [writeLines]

theorem writeLine_eq (w : Writer) (text : String) :
    w.writeLine text = w.writeLines (Text.splitOn '\n' text.toList) := by
  rw [writeLine, writeLines, indentedLines_eq]

theorem run_append (w : Writer) (xs ys : List WriterStep) :
    w.run (xs ++ ys) = (w.run xs).run ys :=
  List.foldl_append

/-- The writer one step deeper. -/
def deeper (w : Writer) : Writer := { w with depth := w.depth + 1 }

theorem writeLines_deeper (w : Writer) (ls : List (List Char)) :
    w.deeper.writeLines ls = (w.writeLines (ls.map (placed 1))).deeper := by
  simp [deeper, writeLines, Function.comp_def]

theorem step_openBlock (w : Writer) (head : String) :
    w.step (.openBlock head)
      = (w.writeLines (Text.splitOn '\n' head.toList)).deeper := by
  rw [← writeLine_eq]
  rfl

theorem step_closeBlock_deeper (w : Writer) (tail : String) :
    w.deeper.step (.closeBlock tail)
      = w.writeLines (Text.splitOn '\n' tail.toList) := by
  rw [← writeLine_eq]
  rfl

mutual

/-- A piece of code adds its lines.  Its blocks are closed again, so the depth
is what it was. -/
theorem run_steps (w : Writer) (c : Code) :
    w.run c.steps = w.writeLines c.pieceLines := by
  cases c with
  | line text => exact writeLine_eq w text
  | blank =>
    simp [Code.steps, Code.pieceLines, run, step, writeLines, Text.unlines]
  | block head body tail =>
    calc w.run (Code.block head body tail).steps
      _ = ((w.step (.openBlock head)).run (Code.stepsOf body)).step
            (.closeBlock tail) := by
        rw [Code.steps, run_append]
        rfl
      _ = w.writeLines (Code.block head body tail).pieceLines := by
        rw [step_openBlock, run_stepsOf _ body, writeLines_deeper,
          step_closeBlock_deeper, Code.pieceLines, writeLines_append,
          writeLines_append]
  | deeper body =>
    calc w.run (Code.deeper body).steps
      _ = (w.deeper.run (Code.stepsOf body)).step .dedent := by
        rw [Code.steps, run_append]
        rfl
      _ = w.writeLines (Code.deeper body).pieceLines := by
        rw [run_stepsOf _ body, writeLines_deeper]
        rfl

theorem run_stepsOf (w : Writer) (cs : List Code) :
    w.run (Code.stepsOf cs) = w.writeLines (Code.lines cs) := by
  cases cs with
  | nil => simp [Code.stepsOf, Code.lines, run]
  | cons c rest =>
    rw [Code.stepsOf, Code.lines, run_append, run_steps w c,
      run_stepsOf _ rest, writeLines_append]

end

/-- The writer after a tree of code. -/
theorem code_eq (w : Writer) (cs : List Code) :
    w.code cs = w.writeLines (Code.lines cs) :=
  run_stepsOf w cs

end Writer

/-! ## The text of code -/

namespace Code

theorem text_eq (cs : List Code) :
    text cs = String.ofList (Text.unlines (lines cs)) := by
  simp [text, Writer.code_eq, Writer.writeLines, Writer.empty]

/-- The lines of a tree of code are those of its text. -/
theorem splitOn_text (cs : List Code) :
    Text.splitOn '\n' (text cs).toList = lines cs ++ [[]] := by
  have hends : ∀ l ∈ lines cs, '\n' ∉ l := fun _ => not_mem_of_mem_lines
  have hlines := Text.splitOn_unlines hends []
  simpa [text_eq, Text.splitOn] using hlines

end Code

end PolicyWeave
