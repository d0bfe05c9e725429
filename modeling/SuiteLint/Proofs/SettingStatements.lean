import Mathlib.Data.List.DropRight
import Mathlib.Tactic
import SuiteLint.Proofs.StatementRows
import SuiteLint.Table

/-!
# Statements of settings and of blocks

Statements are put together in two places, from the rows of a block and from those of a table
of settings, and the two ways differ in where they look. In a block everything stands one cell
further to the right, since the first cell is where a name would be. So a row of settings with
an empty cell put in front of it, an *indented* row, is recognised as a continuation in a block
exactly if it is one among settings, and adds the same cells to the statement before it
(`Statement.blockContinuation?_indent`). It follows, row by row, that settings make the
statements which the indented rows make in a block, without the cell that was put in front
(`Statement.assemble_setting_eq`).

There is one more difference. A table of settings leaves out the blank statements that it ends
with, and it looks at the last statement before it knows that there is one. So a table with
rows, all of whose statements are blank, has no statements but a fault
(`Table.statements_eq_block_statements`).
-/

namespace SuiteLint

/-- The row with an empty cell put in front. -/
def Row.indent (row : Row) : Row := { row with cells := [] :: row.cells }

namespace Statement

/-! ### Putting a cell in front -/

/-- The statement with an empty cell put in front. -/
def indent (s : Statement) : Statement := { s with cells := [] :: s.cells }

/-- The statement without its first cell. -/
def outdent (s : Statement) : Statement := { s with cells := s.cells.drop 1 }

theorem ofRow_indent (row : Row) : ofRow row.indent = (ofRow row).indent := rfl

theorem map_outdent_unlessEmpty (s : Statement) : s.indent.unlessEmpty.map outdent = [s] := rfl

/-- An indented row continues a statement of a block as the row continues one of settings. -/
theorem blockContinuation?_indent (row : Row) :
    blockContinuation? row.indent = settingContinuation? row := by
  rw [blockContinuation?, settingContinuation?, Row.indent]
  cases row.cells with
  | nil => rfl
  | cons cell cells => simp only [true_and]

theorem assembleFrom_setting_eq (current : Statement) (rows : List Row) :
    assembleFrom settingContinuation? current rows =
      ((assembleFrom blockContinuation? current.indent (rows.map Row.indent)).map outdent).filter
        (!·.cells.isEmpty) := by
  induction rows generalizing current with
  | nil =>
    rw [List.map_nil, assembleFrom, assembleFrom, map_outdent_unlessEmpty, unlessEmpty_eq]
  | cons row rows ih =>
    rw [List.map_cons, assembleFrom, assembleFrom, blockContinuation?_indent]
    cases settingContinuation? row with
    | some more =>
      -- the statement under way goes on over the row, indented or not
      exact ih (current.extend more row.line)
    | none =>
      rw [List.map_append, List.filter_append, map_outdent_unlessEmpty, ← unlessEmpty_eq,
        ofRow_indent]
      exact congrArg _ (ih (ofRow row))

/-- **Settings make the statements that they make in a block when they are indented**, except
that one without cells is left out. -/
theorem assemble_setting_eq (rows : List Row) :
    assemble settingContinuation? rows =
      ((ofBlock (rows.map Row.indent)).map outdent).filter (!·.cells.isEmpty) := by
  cases rows with
  | nil => rfl
  | cons row rows => exact assembleFrom_setting_eq (ofRow row) rows

/-- If no row is empty, neither is a statement. -/
theorem assemble_setting_eq_map {rows : List Row} (h : ∀ row ∈ rows, row.cells ≠ []) :
    assemble settingContinuation? rows = (ofBlock (rows.map Row.indent)).map outdent := by
  rw [assemble_setting_eq, List.filter_eq_self]
  intro s hs
  obtain ⟨indented, hindented, rfl⟩ := List.mem_map.mp hs
  obtain ⟨⟨stretch, hstretch, rfl⟩, -⟩ := mem_ofBlock.mp hindented
  obtain ⟨row, hrow, hhead⟩ :=
    List.mem_map.mp (Stretch.mem_of_mem_cut hstretch List.mem_cons_self)
  simp [outdent, Stretch.statement, ← hhead, Row.indent, h row hrow]

/-! ### Blank statements at the end -/

/-- What is kept of statements when those at the end that are blank are left out: only blank
ones are missing, and the last one that is kept is not blank. -/
structure Trims (statements kept : List Statement) : Prop where
  /-- Only blank statements at the end are missing. -/
  missing : ∃ blanks, statements = kept ++ blanks ∧ ∀ s ∈ blanks, s.cells = [[]]
  /-- The last statement is not blank. -/
  last : ∀ s ∈ kept.getLast?, s.cells ≠ [[]]

theorem isBlank_iff {s : Statement} : s.isBlank = true ↔ s.cells = [[]] := by
  rw [isBlank, beq_iff_eq]

theorem dropBlankEnd_eq_nil_iff {statements : List Statement} :
    dropBlankEnd statements = [] ↔ ∀ s ∈ statements, s.cells = [[]] := by
  simp only [← isBlank_iff]
  exact List.rdropWhile_eq_nil_iff

theorem trims_dropBlankEnd (statements : List Statement) :
    Trims statements (dropBlankEnd statements) where
  missing := by
    refine ⟨statements.rtakeWhile isBlank, List.rdropWhile_append_rtakeWhile.symm, ?_⟩
    exact fun s hs => isBlank_iff.mp (List.mem_rtakeWhile_imp hs)
  last := by
    intro s hs
    obtain ⟨hne, rfl⟩ := List.mem_getLast?_eq_getLast hs
    exact fun hblank => List.rdropWhile_last_not isBlank statements hne (isBlank_iff.mpr hblank)

/-- There is one way of leaving out the blank statements at the end. -/
theorem trims_iff {statements kept : List Statement} :
    Trims statements kept ↔ kept = dropBlankEnd statements := by
  refine ⟨fun ⟨⟨blanks, hstatements, hblanks⟩, hlast⟩ => ?_, fun h => h ▸ trims_dropBlankEnd _⟩
  have hdropped : (blanks.reverse ++ kept.reverse).dropWhile isBlank =
      kept.reverse.dropWhile isBlank :=
    List.dropWhile_append_of_pos fun s hs => isBlank_iff.mpr (hblanks s (List.mem_reverse.mp hs))
  have hkept : kept.rdropWhile isBlank = kept := by
    refine List.rdropWhile_eq_self_iff.mpr fun hne hblank => ?_
    exact hlast _ (List.getLast_mem_getLast? hne) (isBlank_iff.mp hblank)
  rw [hstatements, dropBlankEnd, List.reverse_append, hdropped]
  exact hkept.symm

/-- It is a fault if nothing is kept of some rows. -/
theorem ofSettings_eq (rows : List Row) :
    ofSettings rows =
      if rows ≠ [] ∧ ∀ s ∈ assemble settingContinuation? rows, s.cells = [[]] then .error .noItem
      else .ok (dropBlankEnd (assemble settingContinuation? rows)) := by
  by_cases hblank : rows ≠ [] ∧ ∀ s ∈ assemble settingContinuation? rows, s.cells = [[]]
  · rw [if_pos hblank, ofSettings, dropBlankEnd_eq_nil_iff.mpr hblank.2]
    simp [hblank.1]
  · rw [if_neg hblank, ofSettings]
    cases rows with
    | nil => rfl
    | cons row rows =>
      cases hkept : dropBlankEnd (assemble settingContinuation? (row :: rows)) with
      | nil => exact absurd ⟨List.cons_ne_nil _ _, dropBlankEnd_eq_nil_iff.mp hkept⟩ hblank
      | cons => rfl

end Statement

namespace Table

/-- **The statements of a table of settings are those of a block**: indent the rows, put them
together as in a block and take the cell away again. Where there are rows but only blank
statements the table has a fault, and else it has these statements without the blank ones at
the end, so that the last one is never blank. -/
theorem statements_eq_block_statements {table : Table} {block : Block}
    (hcells : ∀ row ∈ table.rows, row.cells ≠ [])
    (hblock : block.rows = table.rows.map Row.indent) :
    let shared := block.statements.map Statement.outdent
    (table.statements = .error .noItem ↔ table.rows ≠ [] ∧ ∀ s ∈ shared, s.cells = [[]]) ∧
    (¬(table.rows ≠ [] ∧ ∀ s ∈ shared, s.cells = [[]]) →
      ∃ kept, table.statements = .ok kept ∧
        (∀ other, Statement.Trims shared other ↔ other = kept) ∧
        ∀ s ∈ kept.getLast?, s.cells ≠ [[]]) := by
  intro shared
  have hshared : Statement.assemble Statement.settingContinuation? table.rows = shared := by
    rw [Statement.assemble_setting_eq_map hcells, ← hblock]
    rfl
  rw [statements, Statement.ofSettings_eq, hshared]
  by_cases hblank : table.rows ≠ [] ∧ ∀ s ∈ shared, s.cells = [[]]
  · rw [if_pos hblank]
    exact ⟨iff_of_true rfl hblank, fun hnot => absurd hblank hnot⟩
  · rw [if_neg hblank]
    refine ⟨iff_of_false nofun hblank, fun _ => ⟨_, rfl, fun other => Statement.trims_iff, ?_⟩⟩
    exact (Statement.trims_dropBlankEnd shared).last

/-- A table that begins with dots and ends with two blank lines, the last of which is continued
by dots alone. -/
def dottedSettings : Table where
  kind := .settings
  rows := [⟨2, [], ["...", "a"]⟩, ⟨3, [], ["...", "b"]⟩, ⟨4, [], [[]]⟩, ⟨5, [], ["Library", "c"]⟩,
    ⟨6, [], [[]]⟩, ⟨7, [], [[]]⟩, ⟨8, [], ["..."]⟩]

/-- The rows of the table, indented, as those of a keyword. -/
def dottedBlock : Block := ⟨.keyword, 1, "K", dottedSettings.rows.map Row.indent⟩

/-- The first row continues nothing, the blank statement in between stays, and those at the end
are left out. Without the other rows there is nothing but the fault. -/
theorem statements_eq_block_statements_dotted :
    let blankSettings : Table := { dottedSettings with rows := dottedSettings.rows.drop 4 }
    let blankBlock : Block := { dottedBlock with rows := dottedBlock.rows.drop 4 }
    (∀ row ∈ dottedSettings.rows, row.cells ≠ []) ∧
      dottedBlock.statements.map Statement.outdent =
        [⟨["...", "a", "b"], 2, 3⟩, ⟨[[]], 4, 4⟩, ⟨["Library", "c"], 5, 5⟩, ⟨[[]], 6, 6⟩,
          ⟨[[]], 7, 8⟩] ∧
      dottedSettings.statements =
        .ok [⟨["...", "a", "b"], 2, 3⟩, ⟨[[]], 4, 4⟩, ⟨["Library", "c"], 5, 5⟩] ∧
      blankBlock.statements.map Statement.outdent = [⟨[[]], 6, 6⟩, ⟨[[]], 7, 8⟩] ∧
      blankSettings.statements = .error .noItem := by
  intro blankSettings blankBlock
  have hcells : ∀ row ∈ dottedSettings.rows, row.cells ≠ [] := by decide
  have hshared : dottedBlock.statements.map Statement.outdent =
      [⟨["...", "a", "b"], 2, 3⟩, ⟨[[]], 4, 4⟩, ⟨["Library", "c"], 5, 5⟩, ⟨[[]], 6, 6⟩,
        ⟨[[]], 7, 8⟩] := by decide
  obtain ⟨-, hkept⟩ := @statements_eq_block_statements dottedSettings dottedBlock hcells rfl
  obtain ⟨hblank, -⟩ :=
    @statements_eq_block_statements blankSettings blankBlock (by decide) rfl
  have htrims : Statement.Trims (dottedBlock.statements.map Statement.outdent)
      [⟨["...", "a", "b"], 2, 3⟩, ⟨[[]], 4, 4⟩, ⟨["Library", "c"], 5, 5⟩] :=
    ⟨⟨[⟨[[]], 6, 6⟩, ⟨[[]], 7, 8⟩], hshared, by decide⟩, by decide⟩
  obtain ⟨kept, hstatements, hunique, -⟩ := hkept (by decide)
  refine ⟨hcells, hshared, ?_, by decide, hblank.mpr (by decide)⟩
  rw [hstatements, (hunique _).mp htrims]

end Table

end SuiteLint
