import Mathlib.Tactic
import SuiteLint.Proofs.AlikeBlocks
import SuiteLint.Proofs.StatementRows

/-!
# Rows that are broken in two

A long row can be broken: some of its cells, at least the first two, stay where they are, and
the others are moved to a continuation below. The row may be the first of a block, it may be a
continuation itself, it may be a setting or a comment. In no case does breaking it change
what is said about the block (`Block.breaksInto_changes_no_report`).

There are two reasons, since there are two ways of reading rows. Most checks read statements,
and the continuation gives the moved cells back to the statement that they were taken from
(`Statement.map_unended_ofBlock_broken`); only the line on which this statement ends may be
another one. The check on names of variables reads the cells of rows as they come, but it
passes over just those cells that make a row a continuation
(`Block.BreaksInto.spokenCells_eq`).
-/

namespace SuiteLint

/-- A row is broken in two: its first cells, at least two of them, stay on its line, and the
others go to a continuation. -/
structure Row.BreaksInto (row head more : Row) : Prop where
  /-- The line stays the same. -/
  line : head.line = row.line
  /-- Where the row is broken. -/
  cells : ∃ k, 2 ≤ k ∧ k ≤ row.cells.length ∧ head.cells = row.cells.take k ∧
    more.cells = [] :: "..." :: row.cells.drop k

/-- The cells of a row that is broken in two, and where they go. -/
theorem Row.BreaksInto.exists_cells {row head more : Row} (h : row.BreaksInto head more) :
    ∃ a b kept moved, row.cells = a :: b :: (kept ++ moved) ∧ head.cells = a :: b :: kept ∧
      more.cells = [] :: "..." :: moved := by
  obtain ⟨k, htwo, hlength, hhead, hmore⟩ := h.cells
  obtain ⟨j, rfl⟩ := Nat.exists_eq_add_of_le' htwo
  rcases hcells : row.cells with _ | ⟨a, _ | ⟨b, others⟩⟩
  · simp [hcells] at hlength
  · simp [hcells] at hlength
  · refine ⟨a, b, others.take j, others.drop j, ?_, ?_, ?_⟩
    · rw [List.take_append_drop]
    · rw [hhead, hcells]
      rfl
    · rw [hmore, hcells]
      rfl

namespace Statement

/-! ### Statements under way -/

section UnderWay

variable {continuation? : Row → Option (List Text)} {row : Row}

theorem assembleFrom_of_some {more : List Text} (h : continuation? row = some more)
    (current : Statement) (rows : List Row) :
    assembleFrom continuation? current (row :: rows) =
      assembleFrom continuation? (current.extend more row.line) rows := by
  rw [assembleFrom, h]

theorem assembleFrom_of_none (h : continuation? row = none) (current : Statement)
    (rows : List Row) :
    assembleFrom continuation? current (row :: rows) =
      current.unlessEmpty ++ assembleFrom continuation? (ofRow row) rows := by
  rw [assembleFrom, h]

/-- Rows finish some statements and leave one under way, whatever follows them. -/
theorem assembleFrom_append (continuation? : Row → Option (List Text)) (current : Statement)
    (before : List Row) :
    ∃ finished next, ∀ rows, assembleFrom continuation? current (before ++ rows) =
      finished ++ assembleFrom continuation? next rows := by
  induction before generalizing current with
  | nil => exact ⟨[], current, fun rows => rfl⟩
  | cons row before ih =>
    cases hrow : continuation? row with
    | some more =>
      obtain ⟨finished, next, hrows⟩ := ih (current.extend more row.line)
      refine ⟨finished, next, fun rows => ?_⟩
      rw [List.cons_append, assembleFrom_of_some hrow, hrows]
    | none =>
      obtain ⟨finished, next, hrows⟩ := ih (ofRow row)
      refine ⟨current.unlessEmpty ++ finished, next, fun rows => ?_⟩
      rw [List.cons_append, assembleFrom_of_none hrow, hrows, List.append_assoc]

theorem map_unended_unlessEmpty (s : Statement) :
    s.unlessEmpty.map unended = s.unended.unlessEmpty := by
  have hcells : s.unended.cells = s.cells := rfl
  rw [unlessEmpty, unlessEmpty, hcells]
  split <;> rfl

/-- Where the statement under way ends shows in no other line of the statements. -/
theorem map_unended_assembleFrom {current current' : Statement}
    (h : current'.unended = current.unended) (rows : List Row) :
    (assembleFrom continuation? current' rows).map unended =
      (assembleFrom continuation? current rows).map unended := by
  induction rows generalizing current current' with
  | nil => rw [assembleFrom, assembleFrom, map_unended_unlessEmpty, h, map_unended_unlessEmpty]
  | cons row rows ih =>
    rw [assembleFrom, assembleFrom]
    cases continuation? row with
    | some more =>
      exact ih (congrArg (fun s => (s.extend more row.line).unended) h)
    | none =>
      simp only [List.map_append, map_unended_unlessEmpty, h]

end UnderWay

/-! ### A broken row -/

section Broken

variable {row head more : Row}

theorem blockContinuation?_of_cells {a b : Text} {others : List Text}
    (h : row.cells = a :: b :: others) :
    blockContinuation? row = if a = [] ∧ b = "..." then some others else none := by
  rw [blockContinuation?, h]

/-- The statement that a broken row begins, once its continuation is read. -/
theorem map_unended_ofRow_broken (h : row.BreaksInto head more) (after : List Row) :
    (assembleFrom blockContinuation? (ofRow head) (more :: after)).map unended =
      (assembleFrom blockContinuation? (ofRow row) after).map unended := by
  obtain ⟨a, b, kept, moved, hrow, hhead, hmore⟩ := h.exists_cells
  have hcontinues : blockContinuation? more = some moved :=
    (blockContinuation?_of_cells hmore).trans (if_pos ⟨rfl, rfl⟩)
  rw [assembleFrom_of_some hcontinues]
  refine map_unended_assembleFrom ?_ after
  simp [extend, unended, ofRow, hrow, hhead, h.line]

/-- A broken row, with what follows it, makes the statements that the row makes. -/
theorem map_unended_assembleFrom_broken (h : row.BreaksInto head more) (current : Statement)
    (after : List Row) :
    (assembleFrom blockContinuation? current (head :: more :: after)).map unended =
      (assembleFrom blockContinuation? current (row :: after)).map unended := by
  obtain ⟨a, b, kept, moved, hrow, hhead, hmore⟩ := h.exists_cells
  have hcontinues : blockContinuation? more = some moved :=
    (blockContinuation?_of_cells hmore).trans (if_pos ⟨rfl, rfl⟩)
  by_cases hdots : a = [] ∧ b = "..."
  · -- the row is a continuation, so the statement under way goes on over both parts
    have hrow' : blockContinuation? row = some (kept ++ moved) :=
      (blockContinuation?_of_cells hrow).trans (if_pos hdots)
    have hhead' : blockContinuation? head = some kept :=
      (blockContinuation?_of_cells hhead).trans (if_pos hdots)
    rw [assembleFrom_of_some hrow', assembleFrom_of_some hhead', assembleFrom_of_some hcontinues]
    refine map_unended_assembleFrom ?_ after
    simp [extend, unended]
  · -- both begin a statement
    have hrow' : blockContinuation? row = none :=
      (blockContinuation?_of_cells hrow).trans (if_neg hdots)
    have hhead' : blockContinuation? head = none :=
      (blockContinuation?_of_cells hhead).trans (if_neg hdots)
    rw [assembleFrom_of_none hrow', assembleFrom_of_none hhead', List.map_append, List.map_append,
      map_unended_ofRow_broken h]

/-- Breaking a row changes no statement but for the line it ends on. -/
theorem map_unended_ofBlock_broken (h : row.BreaksInto head more) (before after : List Row) :
    (ofBlock (before ++ head :: more :: after)).map unended =
      (ofBlock (before ++ row :: after)).map unended := by
  cases before with
  | nil => exact map_unended_ofRow_broken h after
  | cons first before =>
    obtain ⟨finished, next, hrows⟩ := assembleFrom_append blockContinuation? (ofRow first) before
    rw [ofBlock, ofBlock, List.cons_append, List.cons_append, assemble, assemble, hrows, hrows,
      List.map_append, List.map_append, map_unended_assembleFrom_broken h]

end Broken

end Statement

/-! ### A block with a broken row -/

/-- A block becomes another one by breaking one of its rows. -/
inductive Block.BreaksInto (block : Block) : Block → Prop
  /-- The row may stand anywhere in the block. -/
  | row (before after : List Row) {row head more : Row}
      (hrows : block.rows = before ++ row :: after) (h : row.BreaksInto head more) :
      block.BreaksInto { block with rows := before ++ head :: more :: after }

namespace Block

variable {block broken : Block}

theorem BreaksInto.statements (h : block.BreaksInto broken) :
    broken.statements.map Statement.unended = block.statements.map Statement.unended := by
  obtain ⟨before, after, hrows, hrow⟩ := h
  rw [Block.statements, Block.statements, hrows]
  exact Statement.map_unended_ofBlock_broken hrow before after

/-- Statements that are picked out by what they say are the same but for the lines that they
end on. -/
theorem filter_unended {statements statements' : List Statement} {p : Statement → Bool}
    (hp : ∀ s, p s.unended = p s)
    (h : statements'.map Statement.unended = statements.map Statement.unended) :
    (statements'.filter p).map Statement.unended = (statements.filter p).map Statement.unended := by
  have hcomp : p ∘ Statement.unended = p := funext hp
  have hfilter (statements : List Statement) : (statements.filter p).map Statement.unended =
      (statements.map Statement.unended).filter p := by
    rw [List.filter_map, hcomp]
  rw [hfilter, h, hfilter]

theorem BreaksInto.settings (h : block.BreaksInto broken) :
    broken.settings.map Statement.unended = block.settings.map Statement.unended :=
  filter_unended (fun _ => rfl) h.statements

theorem BreaksInto.steps (h : block.BreaksInto broken) :
    broken.steps.map Statement.unended = block.steps.map Statement.unended :=
  filter_unended (fun _ => rfl) h.statements

theorem BreaksInto.tags (h : block.BreaksInto broken) : broken.tags = block.tags := by
  have htags (block : Block) : block.tags = (block.statements.map Statement.unended).flatMap
      fun s => if s.sets "[tags]" then s.cells.drop 2 else [] := by
    rw [List.flatMap_map]
    rfl
  rw [htags, h.statements, htags block]

theorem BreaksInto.alike (h : block.BreaksInto broken) : block.Alike broken where
  kind := by cases h; rfl
  line := by cases h; rfl
  name := by cases h; rfl
  tags := h.tags
  settings := h.settings
  steps := filter_unended (fun _ => rfl) h.steps

end Block

/-! ### Names of variables in broken rows -/

/-- Cells that are passed over do not count. -/
theorem variableNames_filter (expected : Bool) (cells : List (Text × Int)) :
    variableNames expected (cells.filter (!isPassedOver ·.1)) = variableNames expected cells := by
  induction cells generalizing expected with
  | nil => rfl
  | cons cell cells ih =>
    obtain ⟨cell, line⟩ := cell
    by_cases hpassed : isPassedOver cell = true
    · rw [List.filter_cons_of_neg (by simp [hpassed]), ih, variableNames, if_pos hpassed]
    · rw [List.filter_cons_of_pos (by simp [hpassed])]
      simp only [variableNames, if_neg hpassed, ih]

/-- Where cells stand does not show in the messages. -/
theorem map_message_variableNames (expected : Bool) {cells cells' : List (Text × Int)}
    (h : cells'.map Prod.fst = cells.map Prod.fst) :
    (variableNames expected cells').map Remark.message =
      (variableNames expected cells).map Remark.message := by
  induction cells generalizing expected cells' with
  | nil =>
    obtain rfl := List.map_eq_nil_iff.mp h
    rfl
  | cons cell cells ih =>
    obtain ⟨⟨text, line'⟩, cells', rfl, htext, hcells⟩ := List.map_eq_cons_iff.mp h
    obtain ⟨cell, line⟩ := cell
    obtain rfl : text = cell := htext
    simp only [variableNames]
    split_ifs
    · exact ih _ hcells
    · exact ih _ hcells
    · rw [List.map_cons, List.map_cons, ih _ hcells]
    · exact ih _ hcells

namespace Block

/-- The cells of a block that count in the search for names of variables. -/
def spokenCells (block : Block) : List Text :=
  (block.rows.flatMap Row.cells).filter (!isPassedOver ·)

theorem map_message_variableRemarks {block other : Block}
    (h : other.spokenCells = block.spokenCells) :
    other.variableRemarks.map Remark.message = block.variableRemarks.map Remark.message := by
  have hspoken (block : Block) : (block.cells.filter (!isPassedOver ·.1)).map Prod.fst =
      block.spokenCells := by
    have htexts : block.cells.map Prod.fst = block.rows.flatMap Row.cells := by
      rw [cells, List.map_flatMap]
      refine List.flatMap_congr fun row _ => ?_
      rw [List.map_map]
      exact List.map_id row.cells
    rw [spokenCells, ← htexts, List.filter_map]
    rfl
  have hfilter (block : Block) : block.variableRemarks =
      variableNames false (block.cells.filter (!isPassedOver ·.1)) :=
    (variableNames_filter false block.cells).symm
  rw [hfilter, hfilter block]
  exact map_message_variableNames false (by rw [hspoken, h, hspoken])

theorem BreaksInto.spokenCells_eq {block broken : Block} (h : block.BreaksInto broken) :
    broken.spokenCells = block.spokenCells := by
  obtain ⟨before, after, hrows, hrow⟩ := h
  obtain ⟨a, b, kept, moved, hcells, hhead, hmore⟩ := hrow.exists_cells
  -- the cells that make a continuation are passed over
  have hdots : ([] :: "..." :: moved).filter (!isPassedOver ·) =
      moved.filter (!isPassedOver ·) := rfl
  rw [spokenCells, spokenCells, hrows]
  simp only [List.flatMap_append, List.flatMap_cons, List.filter_append, hcells, hhead, hmore,
    hdots]
  rw [← List.append_assoc (List.filter _ (a :: b :: kept)), ← List.filter_append]
  rfl

end Block

/-- What is said about the variables of a document does not change when a block is replaced by
one about whose variables the same is said. -/
theorem Document.Gap.map_message_variableRemarks (gap : Gap) {block other : Block}
    (h : other.variableRemarks.map Remark.message = block.variableRemarks.map Remark.message) :
    (gap.put other).variableRemarks.map Remark.message =
      (gap.put block).variableRemarks.map Remark.message := by
  have hblocks (kind : BlockKind) :
      (((gap.put other).blocks kind).flatMap Block.variableRemarks).map Remark.message =
        (((gap.put block).blocks kind).flatMap Block.variableRemarks).map Remark.message := by
    rw [List.map_flatMap, List.map_flatMap, List.flatMap_def, List.flatMap_def]
    exact congrArg List.flatten (gap.map_blocks_put kind (fun _ => rfl) h)
  simp only [variableRemarks, List.map_append, gap.globals_put block other, testCases, keywords,
    hblocks]

/-- What a rule on the names of variables says about a document. -/
theorem Rule.map_message_inspect {rule : Rule} (hrule : rule.check = .general .variableCase)
    (hblocks : ¬(rule.scope = .test ∨ rule.scope = .keyword)) (document : Document) :
    (rule.inspect document).reports.map Report.message =
      document.variableRemarks.map Remark.message := by
  have hverdicts : rule.verdicts document = [.ok document.variableRemarks] := by
    unfold verdicts
    rw [hrule]
    split
    next hscope => exact absurd (.inl hscope) hblocks
    next hscope => exact absurd (.inr hscope) hblocks
    next => rfl
  rw [inspect, hverdicts]
  change ((document.variableRemarks ++ []).map _).map Report.message = _
  rw [List.append_nil, List.map_map]
  rfl

namespace Block

/-- **Breaking a row over a continuation changes nothing** that can be seen of a block, except
the line that a statement ends on: not the statements, nor the tags, settings and steps, nor
what rules on test cases and keywords find in the document, nor what is said about names of
variables, wherever the row is. -/
theorem breaksInto_changes_no_report {block broken : Block} (h : block.BreaksInto broken)
    (gap : Document.Gap) :
    broken.statements.map Statement.unended = block.statements.map Statement.unended ∧
    broken.tags = block.tags ∧
    broken.settings.map Statement.unended = block.settings.map Statement.unended ∧
    broken.steps.map Statement.unended = block.steps.map Statement.unended ∧
    (∀ rule : Rule, rule.IsOnBlocks →
      rule.inspect (gap.put broken) = rule.inspect (gap.put block)) ∧
    ∀ rule : Rule, rule.check = .general .variableCase →
      (rule.inspect (gap.put broken)).reports.map Report.message =
        (rule.inspect (gap.put block)).reports.map Report.message := by
  refine ⟨h.statements, h.tags, h.settings, h.steps,
    fun rule hrule => Rule.inspect_put hrule gap h.alike, fun rule hrule => ?_⟩
  by_cases hblocks : rule.scope = .test ∨ rule.scope = .keyword
  · -- blocks have no variables to look for, so the rule gives up on all of them
    rw [Rule.inspect_put ⟨hblocks, by simp [hrule]⟩ gap h.alike]
  · rw [Rule.map_message_inspect hrule hblocks, Rule.map_message_inspect hrule hblocks]
    exact gap.map_message_variableRemarks (map_message_variableRemarks h.spokenCells_eq)

/-- A test case with a tag of two words and a variable in small letters. -/
def lowercase : Block where
  kind := .test
  line := 2
  name := "T"
  rows := [⟨3, [], [[], "[Tags]", "a b"]⟩, ⟨4, [], [[], "Set Test Variable", "low", "x"]⟩]

/-- The test case with the second row broken before the name of the variable. -/
def lowercaseBroken : Block :=
  { lowercase with
    rows := [⟨3, [], [[], "[Tags]", "a b"]⟩, ⟨4, [], [[], "Set Test Variable"]⟩,
      ⟨5, [], [[], "...", "low", "x"]⟩] }

/-- The tag and the variable are reported all the same. The last statement ends one line
later. -/
theorem breaksInto_changes_no_report_lowercase :
    let gap : Document.Gap :=
      ⟨⟨"a", "/a.robot", none, []⟩, [], { kind := .blocks .test }, [], [], []⟩
    let spacedTag : Rule := .ofCheck (.test .tagWithSpaces) .error
    let smallVariable : Rule := .ofCheck (.general .variableCase) .warning
    lowercase.BreaksInto lowercaseBroken ∧
      lowercase.statements.map Statement.last = [3, 4] ∧
      lowercaseBroken.statements.map Statement.last = [3, 5] ∧
      lowercaseBroken.statements.map Statement.unended =
        lowercase.statements.map Statement.unended ∧
      (spacedTag.inspect (gap.put lowercase)).reports.length = 1 ∧
      spacedTag.inspect (gap.put lowercaseBroken) = spacedTag.inspect (gap.put lowercase) ∧
      (smallVariable.inspect (gap.put lowercase)).reports.map Report.message =
        [badVariable "low"] ∧
      (smallVariable.inspect (gap.put lowercaseBroken)).reports.map Report.message =
        (smallVariable.inspect (gap.put lowercase)).reports.map Report.message := by
  intro gap spacedTag smallVariable
  have hrow : Row.BreaksInto ⟨4, [], [[], "Set Test Variable", "low", "x"]⟩
      ⟨4, [], [[], "Set Test Variable"]⟩ ⟨5, [], [[], "...", "low", "x"]⟩ :=
    ⟨rfl, 2, by decide, by decide, rfl, rfl⟩
  have hbreaks : lowercase.BreaksInto lowercaseBroken :=
    .row [⟨3, [], [[], "[Tags]", "a b"]⟩] [] rfl hrow
  obtain ⟨hstatements, -, -, -, hrules, hvariables⟩ := breaksInto_changes_no_report hbreaks gap
  exact ⟨hbreaks, by decide, by decide, hstatements, by decide +kernel,
    hrules spacedTag ⟨.inl rfl, nofun⟩, by decide +kernel, hvariables smallVariable rfl⟩

end Block

end SuiteLint
