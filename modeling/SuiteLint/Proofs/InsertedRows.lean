import Mathlib.Tactic
import SuiteLint.Proofs.BrokenRows

/-!
# Rows put in between

A row that is no continuation begins a statement wherever it is put into a block, and it is
all of this statement unless continuations follow it. So it is put in anywhere but directly
before a continuation (`Block.Inserts`). The rows before it and the rows after it make the
statements that they made without it, since a continuation is all that could join a row to
those before it (`Statement.ofBlock_append`). There is one statement more, and that is all
(`Block.Inserts.statements_eq`).

What is seen of a block by picking statements out is therefore the same as before if the new
one is not picked. A blank line is a step, but it is neither a setting nor a step that is
counted, so it can be put in without a change to anything that rules find in the block
(`Block.insertsBlank_changes_no_report`).
-/

namespace SuiteLint

namespace Row

/-- The rows do not begin with a continuation. -/
def BeginAnew (rows : List Row) : Prop := ∀ row ∈ rows.head?, row.isContinuation = false

theorem beginAnew_cons {row : Row} (h : row.isContinuation = false) (rows : List Row) :
    BeginAnew (row :: rows) := by
  intro first hfirst
  rwa [← Option.some.inj hfirst]

/-- A row that begins a statement wherever it stands. -/
structure Opens (row : Row) : Prop where
  /-- It is no continuation. -/
  anew : row.isContinuation = false
  /-- It has cells. -/
  cells : row.cells ≠ []

theorem opens_of_blank {row : Row} (h : row.cells = [[]]) : row.Opens where
  anew := by
    rw [isContinuation, h]
    rfl
  cells := by simp [h]

end Row

namespace Statement

/-- The tags that a statement sets. -/
def tags (s : Statement) : List Text := if s.sets "[tags]" then s.cells.drop 2 else []

/-! ### Statements of rows that begin anew -/

/-- Rows that begin anew end the statement that is under way. -/
theorem assembleFrom_of_beginAnew (current : Statement) {rows : List Row}
    (h : Row.BeginAnew rows) :
    assembleFrom blockContinuation? current rows = current.unlessEmpty ++ ofBlock rows := by
  cases rows with
  | nil => exact (List.append_nil _).symm
  | cons row rows =>
    have hrow : blockContinuation? row = none := by
      rw [blockContinuation?_eq, h row rfl]
      rfl
    exact assembleFrom_of_none hrow current rows

/-- **Statements do not go on over rows that begin anew**, so the rows before them and they
themselves can be read apart. -/
theorem ofBlock_append (before : List Row) {after : List Row} (h : Row.BeginAnew after) :
    ofBlock (before ++ after) = ofBlock before ++ ofBlock after := by
  cases before with
  | nil => rfl
  | cons first before =>
    obtain ⟨finished, next, hrows⟩ := assembleFrom_append blockContinuation? (ofRow first) before
    have hbefore : ofBlock (first :: before) = finished ++ next.unlessEmpty := by
      rw [← List.append_nil (first :: before)]
      exact hrows []
    calc ofBlock (first :: before ++ after)
        = finished ++ assembleFrom blockContinuation? next after := hrows after
      _ = finished ++ (next.unlessEmpty ++ ofBlock after) := by
          rw [assembleFrom_of_beginAnew next h]
      _ = ofBlock (first :: before) ++ ofBlock after := by rw [hbefore, List.append_assoc]

/-- A row before rows that begin anew is a statement of its own. -/
theorem ofBlock_cons {row : Row} (hcells : row.cells ≠ []) {after : List Row}
    (hafter : Row.BeginAnew after) : ofBlock (row :: after) = ofRow row :: ofBlock after := by
  have hrow : (ofRow row).unlessEmpty = [ofRow row] := if_neg (by simpa [ofRow] using hcells)
  calc ofBlock (row :: after)
      = (ofRow row).unlessEmpty ++ ofBlock after := assembleFrom_of_beginAnew (ofRow row) hafter
    _ = ofRow row :: ofBlock after := by rw [hrow, List.singleton_append]

end Statement

/-! ### A block with one more row -/

/-- A block becomes another one when a row is put in between its rows. -/
inductive Block.Inserts (block : Block) (row : Row) : Block → Prop
  /-- The row may stand anywhere but directly before a continuation. -/
  | between (before after : List Row) (hrows : block.rows = before ++ after)
      (hafter : Row.BeginAnew after) :
      block.Inserts row { block with rows := before ++ row :: after }

namespace Block.Inserts

variable {block other : Block} {row : Row}

theorem kind_eq (h : block.Inserts row other) : other.kind = block.kind := by
  cases h
  rfl

theorem line_eq (h : block.Inserts row other) : other.line = block.line := by
  cases h
  rfl

theorem name_eq (h : block.Inserts row other) : other.name = block.name := by
  cases h
  rfl

/-- **There is one statement more**, and the others are as they were. -/
theorem statements_eq (h : block.Inserts row other) (hrow : row.Opens) :
    ∃ earlier later, block.statements = earlier ++ later ∧
      other.statements = earlier ++ Statement.ofRow row :: later := by
  obtain ⟨before, after, hrows, hafter⟩ := h
  refine ⟨Statement.ofBlock before, Statement.ofBlock after, ?_, ?_⟩
  · rw [statements, hrows, Statement.ofBlock_append before hafter]
  · rw [statements, Statement.ofBlock_append before (Row.beginAnew_cons hrow.anew after),
      Statement.ofBlock_cons hrow.cells hafter]

/-- Statements that are picked out are the same if the new one is not picked. -/
theorem filter_statements (h : block.Inserts row other) (hrow : row.Opens)
    {p : Statement → Bool} (hp : p (Statement.ofRow row) = false) :
    other.statements.filter p = block.statements.filter p := by
  obtain ⟨earlier, later, hblock, hother⟩ := h.statements_eq hrow
  rw [hblock, hother, List.filter_append, List.filter_append,
    List.filter_cons_of_neg (by simp [hp])]

/-- There are the tags of the new statement more. -/
theorem tags_eq (h : block.Inserts row other) (hrow : row.Opens) :
    ∃ earlier later, block.tags = earlier ++ later ∧
      other.tags = earlier ++ ((Statement.ofRow row).tags ++ later) := by
  obtain ⟨earlier, later, hblock, hother⟩ := h.statements_eq hrow
  have htags (block : Block) : block.tags = block.statements.flatMap Statement.tags := rfl
  refine ⟨earlier.flatMap Statement.tags, later.flatMap Statement.tags, ?_, ?_⟩
  · rw [htags, hblock, List.flatMap_append]
  · rw [htags, hother, List.flatMap_append, List.flatMap_cons]

theorem tags_eq_of_nil (h : block.Inserts row other) (hrow : row.Opens)
    (hnone : (Statement.ofRow row).tags = []) : other.tags = block.tags := by
  obtain ⟨earlier, later, hblock, hother⟩ := h.tags_eq hrow
  rw [hother, hnone, List.nil_append, hblock]

end Block.Inserts

/-! ### A blank line -/

namespace Block

variable {block other : Block} {row : Row}

theorem countedSteps_eq (block : Block) :
    block.countedSteps = block.statements.filter fun s => !s.isBlank && s.isStep := by
  rw [countedSteps, steps, List.filter_filter]

/-- **A blank line can be put in anywhere but directly before a continuation**: settings, tags
and counted steps stay the same, and so does what rules on test cases and keywords find in the
document, unless they look at steps that are not counted. -/
theorem insertsBlank_changes_no_report (h : block.Inserts row other) (hblank : row.cells = [[]])
    (gap : Document.Gap) :
    other.settings = block.settings ∧ other.tags = block.tags ∧
    other.countedSteps = block.countedSteps ∧
    ∀ rule : Rule, rule.IsOnBlocks →
      rule.inspect (gap.put other) = rule.inspect (gap.put block) := by
  have hrow : row.Opens := Row.opens_of_blank hblank
  have hsettings : other.settings = block.settings := by
    refine h.filter_statements hrow ?_
    rw [Statement.isSetting, Statement.ofRow, hblank]
  have htags : other.tags = block.tags := by
    refine h.tags_eq_of_nil hrow ?_
    rw [Statement.tags, Statement.sets, Statement.hasName, Statement.ofRow, hblank]
    rfl
  have hsteps : other.countedSteps = block.countedSteps := by
    rw [countedSteps_eq, countedSteps_eq]
    refine h.filter_statements hrow ?_
    rw [Statement.isBlank, Statement.ofRow, hblank]
    rfl
  have halike : block.Alike other :=
    ⟨h.kind_eq, h.line_eq, h.name_eq, htags, by rw [hsettings], by rw [hsteps]⟩
  exact ⟨hsettings, htags, hsteps, fun rule hrule => rule.inspect_put hrule gap halike⟩

/-- A test case with a tag of two words and one step, which goes on over two rows. -/
def continued : Block where
  kind := .test
  line := 2
  name := "T"
  rows := [⟨3, [], [[], "[Tags]", "a b"]⟩, ⟨5, [], [[], "log"]⟩, ⟨6, [], [[], "...", "x"]⟩]

/-- The test case with a blank line before its step. -/
def continuedBelow : Block :=
  { continued with
    rows := [⟨3, [], [[], "[Tags]", "a b"]⟩, ⟨4, [], [[]]⟩, ⟨5, [], [[], "log"]⟩,
      ⟨6, [], [[], "...", "x"]⟩] }

/-- There is one step more, but it is not counted, and the tag is reported all the same. -/
theorem insertsBlank_changes_no_report_continued :
    let gap : Document.Gap :=
      ⟨⟨"a", "/a.robot", none, []⟩, [], { kind := .blocks .test }, [], [], []⟩
    let spacedTag : Rule := .ofCheck (.test .tagWithSpaces) .error
    let fewSteps : Rule := .ofCheck (.test (.fewSteps 2)) .warning
    continued.Inserts ⟨4, [], [[]]⟩ continuedBelow ∧
      continued.steps.length = 1 ∧ continuedBelow.steps.length = 2 ∧
      continuedBelow.countedSteps = continued.countedSteps ∧
      (spacedTag.inspect (gap.put continued)).reports.length = 1 ∧
      spacedTag.inspect (gap.put continuedBelow) = spacedTag.inspect (gap.put continued) ∧
      (fewSteps.inspect (gap.put continued)).reports.length = 1 ∧
      fewSteps.inspect (gap.put continuedBelow) = fewSteps.inspect (gap.put continued) := by
  intro gap spacedTag fewSteps
  have hinserts : continued.Inserts ⟨4, [], [[]]⟩ continuedBelow :=
    .between [⟨3, [], [[], "[Tags]", "a b"]⟩] _ rfl (Row.beginAnew_cons rfl _)
  obtain ⟨-, -, hsteps, hrules⟩ := insertsBlank_changes_no_report hinserts rfl gap
  exact ⟨hinserts, by decide, by decide, hsteps, by decide +kernel,
    hrules spacedTag ⟨.inl rfl, nofun⟩, by decide +kernel, hrules fewSteps ⟨.inl rfl, nofun⟩⟩

end Block

end SuiteLint
