import PolicyWeave.Proofs.Source.LegalNames
import PolicyWeave.Proofs.Source.Writing

/-!
# The top of a generated file

A file opens with the header, the name of its contract behind a comment sign,
and an empty line.  Then the declarations begin.

The lines of a header are checked one by one.  The package of a contract is
not checked: a line end in it ends the comment, and what follows stands on a
line of its own.

* `SourceFile.opening` is the part before the declarations.
* `ContractPlan.comments_above_iff` says when it has comments and blank lines
  only: every further line of the contract's path has to be one itself.
-/

namespace PolicyWeave

/-! ## Header lines -/

namespace Config

/-- The lines of an accepted header are comments or blank. -/
theorem isHeaderLine_of_fault?_eq_none {config : Config}
    (h : config.fault? = none) :
    ∀ l ∈ Text.lines config.header.toList, isHeaderLine l = true := by
  have hheader : headerFault? config.header = none := by
    rw [fault?, Option.orElse_eq_none, Option.orElse_eq_none] at h
    exact h.2.2
  rw [headerFault?] at hheader
  split at hheader
  · rename_i hlines
    exact List.all_eq_true.mp hlines
  · cases hheader

/-- A line with a comment sign in front is a comment. -/
theorem isHeaderLine_comment (cs : List Char) :
    isHeaderLine ('/' :: '/' :: cs) = true := by
  simp [isHeaderLine, Text.trimStart_cons_of_not_isBlank _
    (by decide : Text.isBlank '/' = false)]

end Config

/-! ## The opening of a file -/

/-- The package and the name of a contract, as a path. -/
def Contract.path (c : Contract) : String := c.package ++ "::" ++ c.name

namespace SourceFile

/-- The code before the first declaration. -/
def opening (config : Config) (c : Contract) : List Code :=
  (Text.lines config.header.toList).map (fun l => .line (String.ofList l))
    ++ [.line ("// Contract: " ++ c.path), .blank]

theorem preamble_eq (config : Config) (c : Contract) :
    preamble config c = opening config c
      ++ [.line "use super::*;", .line "use std::sync::Arc;"] := by
  simp [preamble, opening, Contract.path, String.append_assoc]

/-- The lines of the opening: those of the header, and the pieces of the
contract's path, the first of them behind a comment sign. -/
theorem lines_opening (config : Config) (c : Contract) :
    Code.lines (opening config c)
      = Text.lines config.header.toList
        ++ (Text.splitOn '\n' c.path.toList).modifyHead
          ("// Contract: ".toList ++ ·)
        ++ [[]] := by
  have hcontract : Text.splitOn '\n' ("// Contract: " ++ c.path).toList
      = (Text.splitOn '\n' c.path.toList).modifyHead
          ("// Contract: ".toList ++ ·) := by
    rw [String.toList_append, Text.splitOn_append (by decide)]
  rw [opening, Code.lines_append,
    Code.lines_map_line fun l => Text.not_mem_of_mem_lines]
  simp only [Code.lines, Code.pieceLines, hcontract, List.append_nil,
    List.append_assoc]

/-- The opening of an accepted header has comments and blank lines only if
all further lines of the contract's path are comments or blank. -/
theorem comments_opening_iff {config : Config} (hconfig : config.fault? = none)
    (c : Contract) :
    (∀ l ∈ Code.lines (opening config c), Config.isHeaderLine l = true) ↔
      ∀ l ∈ (Text.splitOn '\n' c.path.toList).tail,
        Config.isHeaderLine l = true := by
  have hheader := Config.isHeaderLine_of_fault?_eq_none hconfig
  have hblank : Config.isHeaderLine [] = true := rfl
  have hfirst : ∀ l : List Char,
      Config.isHeaderLine ("// Contract: ".toList ++ l) = true :=
    fun l => Config.isHeaderLine_comment (" Contract: ".toList ++ l)
  rw [lines_opening]
  -- The first piece of the path stands behind the comment sign, the others
  -- on lines of their own.
  cases Text.splitOn '\n' c.path.toList with
  | nil =>
    simp only [List.modifyHead_nil, List.append_nil, List.mem_append,
      List.mem_singleton]
    refine ⟨fun _ l hl => (nomatch hl), ?_⟩
    rintro - l (hl | rfl)
    · exact hheader l hl
    · exact hblank
  | cons first rest =>
    simp only [List.modifyHead_cons, List.mem_append, List.mem_cons,
      List.not_mem_nil, or_false, List.tail_cons]
    refine ⟨fun h l hl => h l (.inl (.inr (.inr hl))), fun h l hl => ?_⟩
    rcases hl with (hl | rfl | hl) | rfl
    · exact hheader l hl
    · exact hfirst first
    · exact h l hl
    · exact hblank

/-- The lines of a file: the opening, the first declaration, and the rest. -/
theorem exists_lines_text (config : Config) (f : SourceFile) :
    ∃ below, Text.splitOn '\n' (f.text config).toList
      = Code.lines (opening config f.contract)
        ++ "use super::*;".toList :: below := by
  obtain ⟨rest, hrest⟩ : ∃ rest, f.code config
      = preamble config f.contract ++ rest :=
    ⟨_, by rw [code, List.append_assoc, List.append_assoc]⟩
  refine ⟨"use std::sync::Arc;".toList :: (Code.lines rest ++ [[]]), ?_⟩
  have hfixed : Code.lines [.line "use super::*;", .line "use std::sync::Arc;"]
      = ["use super::*;".toList, "use std::sync::Arc;".toList] := by decide
  rw [text, Code.splitOn_text, hrest, preamble_eq, Code.lines_append,
    Code.lines_append, hfixed]
  simp only [List.append_assoc, List.cons_append, List.nil_append]

end SourceFile

/-! ## Files of plans -/

namespace ContractPlan

variable {config : Config} {table : BuiltinTable} {c : Contract}
  {p : ContractPlan}

/-- The lines above the first declaration of a generated file are comments or
blank exactly if all lines of the contract's path but the first are.  The
configuration is an accepted one. -/
theorem comments_above_iff (hconfig : config.fault? = none)
    (hplan : c.plan table = .ok p) :
    ∃ above below,
      Text.splitOn '\n' ((SourceFile.ofPlan config p).text config).toList
          = above ++ "use super::*;".toList :: below
        ∧ above = Code.lines (SourceFile.opening config c)
        ∧ ((∀ l ∈ above, Config.isHeaderLine l = true) ↔
          ∀ l ∈ (Text.splitOn '\n' c.path.toList).tail,
            Config.isHeaderLine l = true) := by
  obtain ⟨-, rfl⟩ := Contract.plan_eq_ok_iff.mp hplan
  obtain ⟨below, hlines⟩ := SourceFile.exists_lines_text config
    (SourceFile.ofPlan config ⟨c, c.methods.map (Method.plan table c)⟩)
  exact ⟨_, below, hlines, rfl, SourceFile.comments_opening_iff hconfig c⟩

theorem comments_above_userService :
    ∃ p, Sample.userService.plan .standard = .ok p ∧ ∃ above below,
      Text.splitOn '\n' ((SourceFile.ofPlan .standard p).text .standard).toList
          = above ++ "use super::*;".toList :: below
        ∧ ∀ l ∈ above, Config.isHeaderLine l = true := by
  have hplan := Contract.plan_of_planErrors_eq_nil
    (by decide +kernel : Sample.userService.planErrors .standard = [])
  have hconfig : Config.standard.fault? = none := by decide +kernel
  obtain ⟨above, below, hlines, -, hcomments⟩ :=
    comments_above_iff hconfig hplan
  exact ⟨_, hplan, above, below, hlines, hcomments.mpr (by decide +kernel)⟩

/-- A package of one line keeps everything above the first declaration a
comment. -/
theorem comments_opening_of_package (hconfig : config.fault? = none)
    (hplan : c.plan table = .ok p) (hpackage : '\n' ∉ c.package.toList) :
    ∀ l ∈ Code.lines (SourceFile.opening config c),
      Config.isHeaderLine l = true := by
  have hname : '\n' ∉ c.name.toList := by
    have hsound := sound_of_plan hplan
    obtain ⟨-, rfl⟩ := Contract.plan_eq_ok_iff.mp hplan
    exact Text.newline_not_mem hsound.name.identifier
  have hpath : '\n' ∉ c.path.toList := by
    simp [Contract.path, hpackage, hname]
  rw [SourceFile.comments_opening_iff hconfig, Text.splitOn_eq_singleton hpath]
  exact fun l hl => nomatch hl

end ContractPlan

/-- A contract with a function in its package. -/
def Sample.annexed : Contract :=
  ⟨"app\nfn extra() \x7b\x7d\n//", "Annex", [ping]⟩

/-- The contract has a plan, and the function stands above the first
declaration of its file. -/
theorem ContractPlan.function_above_annexed :
    Config.standard.fault? = none
      ∧ ∃ p, Sample.annexed.plan .standard = .ok p ∧ ∃ above below,
        Text.splitOn '\n'
            ((SourceFile.ofPlan .standard p).text .standard).toList
          = above ++ "use super::*;".toList :: below
        ∧ "fn extra() \x7b\x7d".toList ∈ above
        ∧ Config.isHeaderLine "fn extra() \x7b\x7d".toList = false := by
  have hplan := Contract.plan_of_planErrors_eq_nil
    (by decide +kernel : Sample.annexed.planErrors .standard = [])
  obtain ⟨below, hlines⟩ := SourceFile.exists_lines_text .standard
    (SourceFile.ofPlan .standard ⟨Sample.annexed,
      Sample.annexed.methods.map (Method.plan .standard Sample.annexed)⟩)
  refine ⟨by decide +kernel, _, hplan, _, below, hlines, ?_, by decide +kernel⟩
  decide +kernel

end PolicyWeave
