import Mathlib.Tactic
import SuiteLint.Proofs.Safety
import SuiteLint.Proofs.StatementRows

/-!
# Comments behind a step

A statement is meant to be a comment if its first cell that is not empty begins with a number
sign. But any cell that does so makes a comment of it. So a step is lost as soon as something
is said about it in a cell behind it, and since a statement can go on over several rows, the
cell may stand in any of them (`Stretch.isComment_statement`).

The statements that are meant to be steps are the *proper* steps. The steps of a block are
the proper ones without those that have a comment behind them, and the checks that count
steps do not count these (`Block.steps_omit_trailing_comments`).
-/

namespace SuiteLint

namespace Statement

/-- The cells of a statement from the first one on that is not empty. -/
def content (s : Statement) : List Text := s.cells.dropWhile List.isEmpty

/-- Whether the first cell of a statement that is not empty is a comment. -/
def beginsAsComment (s : Statement) : Bool :=
  match s.content with
  | [] => false
  | cell :: _ => Text.isRemark cell

/-- Whether a statement begins as something else, and a comment follows in a later cell. -/
def hasTrailingComment (s : Statement) : Bool :=
  match s.content with
  | [] => false
  | cell :: others => !Text.isRemark cell && others.any Text.isRemark

/-- Whether a statement is neither a setting nor begins as a comment. -/
def isProperStep (s : Statement) : Bool := !s.beginsAsComment && !s.isSetting

theorem isComment_eq_any_content (s : Statement) : s.isComment = s.content.any Text.isRemark := by
  rw [isComment, content]
  induction s.cells with
  | nil => rfl
  | cons cell cells ih =>
    cases cell with
    | nil => exact ih
    | cons => rfl

/-- What makes a comment of a statement. -/
theorem isComment_eq (s : Statement) :
    s.isComment = (s.beginsAsComment || s.hasTrailingComment) := by
  rw [isComment_eq_any_content, beginsAsComment, hasTrailingComment]
  cases s.content with
  | nil => rfl
  | cons cell others =>
    change (Text.isRemark cell || others.any Text.isRemark) =
      (Text.isRemark cell || (!Text.isRemark cell && others.any Text.isRemark))
    cases Text.isRemark cell <;> rfl

theorem isStep_eq (s : Statement) : s.isStep = (!s.hasTrailingComment && s.isProperStep) := by
  rw [isStep, isComment_eq, isProperStep, Bool.not_or, Bool.and_comm (!s.beginsAsComment),
    Bool.and_assoc]

theorem isBlank_of_hasTrailingComment {s : Statement} (h : s.hasTrailingComment = true) :
    s.isBlank = false := by
  by_contra hblank
  rw [Bool.not_eq_false, isBlank, beq_iff_eq] at hblank
  rw [hasTrailingComment, content, hblank] at h
  cases h

end Statement

/-- The cells that make a row a continuation are no comments. -/
theorem Row.any_isRemark_drop {row : Row} (h : row.isContinuation = true) :
    (row.cells.drop 2).any Text.isRemark = row.cells.any Text.isRemark := by
  obtain ⟨more, hcells⟩ := isContinuation_iff.mp h
  rw [hcells]
  rfl

/-- A comment in one cell of one row makes a comment of the whole statement. -/
theorem Stretch.isComment_statement (stretch : Stretch) :
    stretch.statement.isComment = stretch.rows.any fun row => row.cells.any Text.isRemark := by
  have hmore : stretch.more.any (fun row => (row.cells.drop 2).any Text.isRemark) =
      stretch.more.any fun row => row.cells.any Text.isRemark := by
    rw [Bool.eq_iff_iff, List.any_eq_true, List.any_eq_true]
    refine exists_congr fun row => and_congr_right fun hrow => ?_
    rw [Row.any_isRemark_drop (stretch.continues row hrow)]
  rw [Statement.isComment, statement, List.any_append, List.any_flatMap, hmore, rows,
    List.any_cons]

namespace Block

/-- The statements of a block that are neither settings nor begin as comments. -/
def properSteps (block : Block) : List Statement := block.statements.filter Statement.isProperStep

theorem steps_eq (block : Block) :
    block.steps = block.properSteps.filter (!·.hasTrailingComment) := by
  rw [steps, properSteps, List.filter_filter]
  exact List.filter_congr fun s _ => s.isStep_eq

theorem steps_eq_properSteps_iff (block : Block) :
    block.steps = block.properSteps ↔ ∀ s ∈ block.properSteps, s.hasTrailingComment = false := by
  rw [steps_eq, List.filter_eq_self]
  simp only [Bool.not_eq_true']

/-- The steps that are counted, and those that have a comment behind them, make up the proper
steps that do not come from blank lines. -/
theorem length_countedSteps (block : Block) :
    block.countedSteps.length + block.properSteps.countP Statement.hasTrailingComment =
      (block.properSteps.filter (!·.isBlank)).length := by
  have hblank : (block.properSteps.filter Statement.hasTrailingComment).filter (!·.isBlank) =
      block.properSteps.filter Statement.hasTrailingComment := by
    refine List.filter_eq_self.mpr fun s hs => ?_
    rw [Statement.isBlank_of_hasTrailingComment (List.mem_filter.mp hs).2]
    rfl
  have hsplit := List.countP_eq_countP_filter_add block.properSteps (!·.isBlank)
    Statement.hasTrailingComment
  rw [List.countP_eq_length_filter (l := block.properSteps.filter Statement.hasTrailingComment),
    hblank, ← List.countP_eq_length_filter] at hsplit
  rw [countedSteps, steps_eq, ← List.countP_eq_length_filter, ← List.countP_eq_length_filter,
    hsplit, add_comm]

/-- **Which steps a block has.** A comment in any cell of any row of a statement makes a comment
of the statement. So the steps are the proper steps that have no comment behind them, which
are all of them only if none has. The checks that count steps take the number of proper steps
less the number of those that have a comment behind them. -/
theorem steps_omit_trailing_comments (block : Block) (tables : List Table) :
    let proper := (block.properSteps.filter (!·.isBlank)).length
    let omitted := block.properSteps.countP Statement.hasTrailingComment
    let count := proper - omitted
    (∀ s : Statement, s.isComment = true ↔
      s.beginsAsComment = true ∨ s.hasTrailingComment = true) ∧
    (∀ stretch ∈ Stretch.cut block.rows, stretch.statement.isComment = true ↔
      ∃ row ∈ stretch.rows, ∃ cell ∈ row.cells, Text.isRemark cell = true) ∧
    block.steps = block.properSteps.filter (!·.hasTrailingComment) ∧
    (block.steps = block.properSteps ↔
      ∀ s ∈ block.properSteps, s.hasTrailingComment = false) ∧
    (block.countedSteps.length = proper ↔
      ∀ s ∈ block.properSteps, s.hasTrailingComment = false) ∧
    (∀ least, (TestCheck.fewSteps least).apply tables block =
      unlessTemplated tables (.ok (if (count : Int) < least then
        [{ line := block.line,
           message := "Too few steps (" ++ Text.ofNat count ++ ") in test case" }] else []))) ∧
    (∀ limit, (TestCheck.manySteps limit).apply tables block =
      unlessTemplated tables (limitVerdict
        (block.properSteps.filter fun s => !s.isBlank && !s.hasTrailingComment) limit
        fun step => { line := step.first,
                      message := "Too many steps (" ++ Text.ofNat count ++ ") in test case" })) ∧
    (∀ least, (KeywordCheck.fewSteps least).apply block =
      .ok (if (count : Int) < least then
        [{ line := block.line,
           message := "Too few steps (" ++ Text.ofNat count ++ ") in keyword" }] else [])) := by
  intro proper omitted count
  have hcount : block.countedSteps.length + omitted = proper := block.length_countedSteps
  have hcounted : count = block.countedSteps.length := by omega
  have hsteps : (block.properSteps.filter fun s => !s.isBlank && !s.hasTrailingComment) =
      block.countedSteps := by
    rw [countedSteps, steps_eq, List.filter_filter]
  refine ⟨fun s => ?_, fun stretch _ => ?_, block.steps_eq, block.steps_eq_properSteps_iff, ?_,
    fun least => ?_, fun limit => ?_, fun least => ?_⟩
  · rw [s.isComment_eq, Bool.or_eq_true]
  · simp only [stretch.isComment_statement, List.any_eq_true]
  · rw [← hcount, left_eq_add, List.countP_eq_zero]
    simp only [Bool.not_eq_true]
  · rw [hcounted]
    rfl
  · rw [hcounted, hsteps]
    rfl
  · rw [hcounted]
    rfl

/-- A test case of three steps, two of which have a comment behind them. -/
def annotated : Block where
  kind := .test
  line := 2
  name := "T"
  rows := [⟨3, [], [[], "log", "x", "# first"]⟩, ⟨4, [], [[], "log"]⟩,
    ⟨5, [], [[], "...", "y", "# second"]⟩, ⟨6, [], [[], "log", "z"]⟩]

/-- Of three proper steps one is left, and it is said that a test case has too few. The
statement with a comment in its second row is a comment. -/
theorem steps_omit_trailing_comments_annotated :
    annotated.properSteps.map Statement.first = [3, 4, 6] ∧
      annotated.steps.map Statement.first = [6] ∧ annotated.steps ≠ annotated.properSteps ∧
      (∃ stretch ∈ Stretch.cut annotated.rows,
        stretch.head.line = 4 ∧ stretch.statement.isComment = true) ∧
      (TestCheck.fewSteps 2).apply [] annotated =
        .ok [{ line := 2, message := "Too few steps (1) in test case" }] := by
  obtain ⟨-, hcomment, -, hsame, -, hfew, -, -⟩ := annotated.steps_omit_trailing_comments []
  have hmem : ⟨⟨4, [], [[], "log"]⟩, [⟨5, [], [[], "...", "y", "# second"]⟩], by decide⟩ ∈
      Stretch.cut annotated.rows := .tail _ (.head _)
  refine ⟨by decide, by decide, fun h => ?_, ⟨_, hmem, rfl, (hcomment _ hmem).mpr ?_⟩,
    (hfew 2).trans (by decide +kernel)⟩
  · have hnone := hsame.mp h ⟨[[], "log", "x", "# first"], 3, 3⟩ (by decide)
    cases hnone
  · exact ⟨_, .tail _ (.head _), "# second", by decide, by decide⟩

end Block

end SuiteLint
