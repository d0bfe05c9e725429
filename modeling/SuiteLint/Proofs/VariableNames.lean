import Mathlib.Tactic
import SuiteLint.Proofs.BrokenRows

/-!
# Which names of variables are reported

A test case or keyword sets a global variable by a cell that says so, and the next cell names
the variable. The search for such names goes through the cells of all rows with one bit of
memory: whether the name of a variable is expected. It passes over empty cells and dots, it may
meet a second cell that sets a variable before it meets a name, and it may come to its end with
the name still expected.

All this has a plain description. Leave out the cells that are passed over. Then a cell is
reported exactly if the one directly before it sets a variable, and it does not do so itself and
is not in capital letters (`isBadName`). What connects the two is the meaning of the bit
(`variableNames_eq`): a name is expected if and only if the last cell that was not passed over
sets a variable. The bit is cleared at the beginning of each block, so that what is found in a
document is what is found in each block of it, one after the other
(`Document.variableCase_apply`).
-/

namespace SuiteLint

/-- The cells of a block that count in the search for names of variables, each with the line it
stands on. -/
def Block.placedCells (block : Block) : List (Text × Int) :=
  block.cells.filter (!isPassedOver ·.1)

/-- Whether the cell directly before a position says that a variable is set. -/
def followsSetting (cells : List (Text × Int)) : Nat → Bool
  | 0 => false
  | i + 1 => cells[i]?.any (setsVariable ·.1)

/-- Whether a cell at a position among cells is a bad name: it follows one that says that a
variable is set, it does not say so itself, and it is not in capital letters. -/
def isBadName (cells : List (Text × Int)) : (Text × Int) × Nat → Bool
  | ((cell, _), i) => followsSetting cells i && !setsVariable cell && !Text.isAllCapitals cell

/-- The remark on a bad name. -/
def badNameRemark : (Text × Int) × Nat → Remark
  | ((cell, line), _) => { line, message := badVariable cell }

/-- The remarks on the bad names among cells, one for each, in the order of their positions. -/
def badNameRemarks (cells : List (Text × Int)) : List Remark :=
  (cells.zipIdx.filter (isBadName cells)).map badNameRemark

/-- After some cells, the next one follows the last of them. -/
theorem followsSetting_length (before after : List (Text × Int)) :
    followsSetting (before ++ after) before.length = before.getLast?.any (setsVariable ·.1) := by
  induction before using List.reverseRecOn with
  | nil => rfl
  | append_singleton before cell =>
    rw [List.length_append, List.length_singleton, followsSetting, List.append_assoc,
      List.getElem?_append_right (le_refl _), Nat.sub_self, List.getLast?_concat]
    rfl

/-- **A name is expected exactly if the last cell sets a variable.** From there on, the search
finds the bad names among the cells that follow. -/
theorem variableNames_eq (before after : List (Text × Int))
    (hafter : ∀ cell ∈ after, isPassedOver cell.1 = false) :
    variableNames (before.getLast?.any (setsVariable ·.1)) after =
      ((after.zipIdx before.length).filter (isBadName (before ++ after))).map badNameRemark := by
  -- each cell moves over to those before it, whatever is said about it
  induction after generalizing before with
  | nil => rfl
  | cons cell after ih =>
    obtain ⟨hpassed, hrest⟩ := List.forall_mem_cons.mp hafter
    obtain ⟨cell, line⟩ := cell
    have hstep := ih (before ++ [(cell, line)]) hrest
    rw [List.getLast?_concat, List.length_append, List.length_singleton, List.append_assoc,
      List.singleton_append, Option.any_some] at hstep
    rw [variableNames, if_neg (by simp [hpassed]), List.zipIdx_cons, List.filter_cons, isBadName,
      followsSetting_length]
    cases hsets : setsVariable cell with
    | true => simpa [hsets] using hstep
    | false =>
      rw [hsets] at hstep
      by_cases hbad : (before.getLast?.any (setsVariable ·.1) && !Text.isAllCapitals cell) = true
      · simp [hbad, hstep, badNameRemark]
      · simp [hbad, hstep]

/-- What is found in a block are the bad names among its cells. -/
theorem Block.variableRemarks_eq (block : Block) :
    block.variableRemarks = badNameRemarks block.placedCells := by
  have hcounted : ∀ cell ∈ block.placedCells, isPassedOver cell.1 = false := by
    intro cell hcell
    simpa using (List.mem_filter.mp hcell).2
  rw [variableRemarks, ← variableNames_filter]
  exact variableNames_eq [] block.placedCells hcounted

/-- **Exactly the bad names are reported**, each once and in order, and nothing is remembered
from one test case or keyword to the next: what is found in the blocks of a document is what is
found in each of them. -/
theorem Document.variableCase_apply (document : Document) :
    (∀ block : Block, block.variableRemarks = badNameRemarks block.placedCells) ∧
    GeneralCheck.apply document .variableCase =
      .ok (document.globals.flatMap Row.variableRemarks ++
        (document.testCases ++ document.keywords).flatMap fun block =>
          badNameRemarks block.placedCells) := by
  have hblocks (blocks : List Block) : blocks.flatMap Block.variableRemarks =
      blocks.flatMap fun block => badNameRemarks block.placedCells :=
    List.flatMap_congr fun block _ => block.variableRemarks_eq
  refine ⟨Block.variableRemarks_eq, ?_⟩
  rw [GeneralCheck.apply, variableRemarks, List.append_assoc, hblocks, hblocks,
    ← List.flatMap_append]

/-- The second of two cells that set a variable is no name, and the name may stand on another
line. What follows the name is of no concern, and a name that is still missing at the end is not
looked for elsewhere. -/
example :
    let block : Block := ⟨.test, 2, "T", [
      ⟨3, [], [[], "Set Test Variable"]⟩,
      ⟨4, [], [[], "...", "SET SUITE VARIABLE", "low", "high", "set global variable"]⟩]⟩
    block.variableRemarks = [{ line := 4, message := badVariable "low" }] := by
  decide +kernel

end SuiteLint
