import Mathlib.Data.List.Forall2
import Mathlib.Tactic
import SuiteLint.Proofs.Decoding

/-!
# Where the lines of a file go

Reading a file deals its lines out to tables, and the tables of test cases and
keywords deal them out further. No line may get lost on the way, be dealt out twice,
or change its place.

The argument is bookkeeping. A *mark* says in which way a table keeps a line
(`Mark`), and the marks of a table are listed in the order in which they stand in
it (`Table.marks`). Appending a row appends to this list one of the few groups of
marks that a line can leave (`Row.Leaves`), whatever the table looks like; this is
the step lemma `Table.marks_append`. Over all lines it follows that the marks of a
file are those groups, one for each line from the first heading on and in the order
of the lines (`Document.marks_tablesOf`). Everything else is read off this list.

## The invariant

The step lemma needs two things of the table that is being filled. It is *tidy*:
a table of blocks has no rows of its own, and any other table has neither comments
nor blocks. And the names of its blocks stand on earlier lines, which is what tells
the row of a block from the line of its name.
-/

namespace SuiteLint

/-! ### Marks -/

/-- A line as a table keeps it. -/
inductive Mark
  /-- As the heading of a table. -/
  | heading (line : Int)
  /-- As a row of a table that is not one of blocks. -/
  | row (kept : Row)
  /-- Among the comments of a table of blocks. -/
  | comment (kept : Row)
  /-- As the name of a block. -/
  | name (line : Int)
  /-- As a row of the block whose name stands on the given line. -/
  | step (block : Int) (kept : Row)

namespace Mark

/-- The number of the line. -/
def line : Mark → Int
  | heading line => line
  | row kept => kept.line
  | comment kept => kept.line
  | name line => line
  | step _ kept => kept.line

/-- The line of a heading. -/
def heading? : Mark → Option Int
  | heading line => some line
  | _ => none

/-- The line of the name of a block. -/
def name? : Mark → Option Int
  | name line => some line
  | _ => none

/-- The row that is kept, wherever it is. -/
def row? : Mark → Option Row
  | row kept => some kept
  | comment kept => some kept
  | step _ kept => some kept
  | _ => none

/-- The row that is kept in the block whose name stands on the given line. -/
def stepOf? (block : Int) : Mark → Option Row
  | step line kept => if line = block then some kept else none
  | _ => none

/-- Whether a mark may come before another one: its line comes before, or it is the
name of a block and the other one is the row of this block on the same line. -/
def Precedes (a b : Mark) : Prop :=
  a.line < b.line ∨ ∃ kept : Row, a = name kept.line ∧ b = step kept.line kept

end Mark

/-- The marks of a block: that of its name, and those of its rows. -/
def Block.marks (block : Block) : List Mark :=
  .name block.line :: block.rows.map (.step block.line)

/-- The marks of a table: that of its heading, and those of what it keeps. -/
def Table.marks (table : Table) : List Mark :=
  .heading table.line ::
    (table.rows.map .row ++ table.comments.map .comment ++ table.blocks.flatMap Block.marks)

/-- The marks that a line can leave. A line that opens a block leaves its name and, if
it has further cells, a row of this block in which the name is missing. -/
inductive Row.Leaves (row : Row) : List Mark → Prop
  /-- It begins a table. -/
  | heading : (Document.headingName? row).isSome = true → Leaves row [.heading row.line]
  /-- It is kept as it is. -/
  | row : Document.headingName? row = none → Leaves row [.row row]
  /-- It is kept as it is, before any block. -/
  | comment : Document.headingName? row = none → Leaves row [.comment row]
  /-- It belongs to a block above it. -/
  | step (block : Int) : Document.headingName? row = none → block < row.line →
      Leaves row [.step block row]
  /-- It is the name of a block. -/
  | name : Document.headingName? row = none → row.cells.length ≤ 1 →
      Leaves row [.name row.line]
  /-- It is the name of a block, and its first row. -/
  | nameAndStep : Document.headingName? row = none → 1 < row.cells.length →
      Leaves row [.name row.line, .step row.line { row with cells := [] :: row.cells.tail }]

theorem Row.Leaves.line_eq {row : Row} {marks : List Mark} (h : row.Leaves marks) :
    ∀ mark ∈ marks, mark.line = row.line := by
  cases h <;> simp [Mark.line]

/-- What a line leaves has cells if the line has. -/
theorem Row.Leaves.cells_ne_nil {row : Row} {marks : List Mark} (h : row.Leaves marks)
    (hcells : row.cells ≠ []) :
    ∀ mark ∈ marks, ∀ kept, mark.row? = some kept → kept.cells ≠ [] := by
  cases h <;> simp [Mark.row?, hcells]

/-! ### The step: appending a row -/

/-- Whether a table groups its rows into blocks. -/
def Table.isOfBlocks (table : Table) : Bool :=
  match table.kind with
  | .blocks _ => true
  | _ => false

/-- A table of blocks has no rows of its own, and no other table has comments or
blocks. -/
structure Table.Tidy (table : Table) : Prop where
  /-- A table of blocks has no rows of its own. -/
  rows : table.isOfBlocks = true → table.rows = []
  /-- Only a table of blocks has comments. -/
  comments : table.isOfBlocks = false → table.comments = []
  /-- Only a table of blocks has blocks. -/
  blocks : table.isOfBlocks = false → table.blocks = []

theorem Table.onLast_concat (f : Block → Block) (blocks : List Block) (last : Block) :
    Table.onLast f (blocks ++ [last]) = blocks ++ [f last] := by
  induction blocks with
  | nil => rfl
  | cons block blocks ih =>
    rw [List.cons_append, List.cons_append, ← ih]
    cases blocks <;> rfl

/-- The marks of the block that a row opens are those that its line leaves. -/
theorem Table.leaves_openBlock (kind : BlockKind) {row : Row}
    (hrow : Document.headingName? row = none) :
    row.Leaves (Table.openBlock kind row).marks ∧ (Table.openBlock kind row).line = row.line := by
  unfold Table.openBlock
  rcases hcells : row.cells with _ | ⟨name, _ | ⟨cell, cells⟩⟩
  · exact ⟨.name hrow (by simp [hcells]), rfl⟩
  · exact ⟨.name hrow (by simp [hcells]), rfl⟩
  · have h := Row.Leaves.nameAndStep hrow (by simp [hcells])
    rw [hcells] at h
    exact ⟨h, rfl⟩

/-- What appending a row can do: the row is kept as it is, it opens a block, it goes to
the comments, or it goes to the last block. -/
theorem Table.append_cases (table : Table) {row : Row} (hcells : row.cells ≠ []) :
    (table.isOfBlocks = false ∧ table.append row = { table with rows := table.rows ++ [row] }) ∨
    (∃ kind, table.kind = .blocks kind ∧ table.isOfBlocks = true ∧
      table.append row = { table with blocks := table.blocks ++ [Table.openBlock kind row] }) ∨
    (table.isOfBlocks = true ∧ table.blocks = [] ∧
      table.append row = { table with comments := table.comments ++ [row] }) ∨
    (∃ front last, table.isOfBlocks = true ∧ table.blocks = front ++ [last] ∧
      table.append row = { table with blocks := front ++ [last.append row] }) := by
  unfold Table.append Table.isOfBlocks
  have hne : ¬row.cells.isEmpty = true := by simpa using hcells
  cases table.kind with
  | blocks kind =>
    refine Or.inr ?_
    simp only [if_neg hne]
    split
    · exact Or.inl ⟨kind, rfl, trivial, rfl⟩
    · rcases List.eq_nil_or_concat table.blocks with hnil | ⟨front, last, hblocks⟩
      · exact Or.inr (Or.inl ⟨trivial, hnil, by simp [hnil]⟩)
      · rw [List.concat_eq_append] at hblocks
        refine Or.inr (Or.inr ⟨front, last, trivial, hblocks, ?_⟩)
        rw [hblocks, Table.onLast_concat]
        simp
  | _ => exact Or.inl ⟨rfl, rfl⟩

/-- A table of blocks stays tidy if only its comments and blocks change. -/
theorem Table.Tidy.ofBlocks {table changed : Table} (htidy : table.Tidy)
    (hkind : table.isOfBlocks = true) (hsame : changed.kind = table.kind)
    (hrows : changed.rows = table.rows) : changed.Tidy := by
  have hchanged : changed.isOfBlocks = true := by
    rw [← hkind, Table.isOfBlocks, Table.isOfBlocks, hsame]
  refine ⟨fun _ => hrows.trans (htidy.rows hkind), fun h => ?_, fun h => ?_⟩ <;>
    exact absurd (hchanged.symm.trans h) (by decide)

/-- **A row leaves its marks at the end of the table it is appended to.** -/
theorem Table.marks_append {table : Table} {row : Row} (htidy : table.Tidy)
    (hrow : Document.headingName? row = none) (hcells : row.cells ≠ [])
    (hbelow : ∀ block ∈ table.blocks, block.line < row.line) :
    ∃ marks, row.Leaves marks ∧ (table.append row).marks = table.marks ++ marks := by
  rcases table.append_cases hcells with ⟨hkind, h⟩ | ⟨kind, -, -, h⟩ | ⟨-, hnil, h⟩ |
    ⟨front, last, -, hblocks, h⟩
  · refine ⟨_, .row hrow, ?_⟩
    rw [h]
    simp [Table.marks, htidy.comments hkind, htidy.blocks hkind]
  · refine ⟨_, (Table.leaves_openBlock kind hrow).1, ?_⟩
    rw [h]
    simp [Table.marks]
  · refine ⟨_, .comment hrow, ?_⟩
    rw [h]
    simp [Table.marks, hnil]
  · have hlast : last.line < row.line := hbelow last (by simp [hblocks])
    refine ⟨_, .step last.line hrow hlast, ?_⟩
    rw [h]
    simp [Table.marks, hblocks, Block.marks, Block.append]

theorem Table.Tidy.append {table : Table} {row : Row} (htidy : table.Tidy)
    (hcells : row.cells ≠ []) : (table.append row).Tidy := by
  rcases table.append_cases hcells with ⟨hkind, h⟩ | ⟨kind, -, hkind, h⟩ | ⟨hkind, -, h⟩ |
    ⟨front, last, hkind, -, h⟩
  · have hchanged : (table.append row).isOfBlocks = false := by rw [h, ← hkind]; rfl
    refine ⟨fun h' => absurd (hchanged.symm.trans h') (by decide), fun _ => ?_, fun _ => ?_⟩
    · rw [h]
      exact htidy.comments hkind
    · rw [h]
      exact htidy.blocks hkind
  all_goals exact htidy.ofBlocks hkind (by rw [h]) (by rw [h])

/-- The blocks of a table stand above its next row. -/
theorem Table.blocks_append_le {table : Table} {row : Row} (hcells : row.cells ≠ [])
    (hrow : Document.headingName? row = none)
    (hbelow : ∀ block ∈ table.blocks, block.line < row.line) :
    ∀ block ∈ (table.append row).blocks, block.line ≤ row.line := by
  intro block hblock
  rcases table.append_cases hcells with ⟨-, h⟩ | ⟨kind, -, -, h⟩ | ⟨-, -, h⟩ |
    ⟨front, last, -, hblocks, h⟩
  · rw [h] at hblock
    exact le_of_lt (hbelow block hblock)
  · rw [h] at hblock
    rcases List.mem_append.mp hblock with hblock | hblock
    · exact le_of_lt (hbelow block hblock)
    · rw [List.mem_singleton.mp hblock, (Table.leaves_openBlock kind hrow).2]
  · rw [h] at hblock
    exact le_of_lt (hbelow block hblock)
  · rw [h] at hblock
    rcases List.mem_append.mp hblock with hblock | hblock
    · exact le_of_lt (hbelow block (by simp [hblocks, hblock]))
    · rw [List.mem_singleton.mp hblock]
      exact le_of_lt (hbelow last (by simp [hblocks]))

/-! ### The run: dealing out all rows -/

/-- **The marks of the tables of rows** are the marks of the table that is being
filled, and then those that the rows leave, row by row. -/
theorem Document.marks_tablesFrom {rows : List Row} :
    ∀ current : Table, current.Tidy → (∀ row ∈ rows, row.cells ≠ []) →
      rows.Pairwise (fun a b => a.line < b.line) →
      (∀ block ∈ current.blocks, ∀ row ∈ rows, block.line < row.line) →
      ∃ groups, List.Forall₂ Row.Leaves rows groups ∧
        (Document.tablesFrom current rows).flatMap Table.marks =
          current.marks ++ groups.flatten := by
  induction rows with
  | nil =>
    intro current _ _ _ _
    exact ⟨[], .nil, by simp [Document.tablesFrom]⟩
  | cons row rows ih =>
    intro current htidy hcells hsorted hbelow
    have hcells' : ∀ r ∈ rows, r.cells ≠ [] := fun r hr => hcells r (List.mem_cons_of_mem row hr)
    obtain ⟨hfirst, hsorted'⟩ := List.pairwise_cons.mp hsorted
    rw [Document.tablesFrom]
    cases hname : Document.headingName? row with
    | some name =>
      obtain ⟨groups, hleaves, heq⟩ := ih (Document.startTable row name)
        ⟨fun _ => rfl, fun _ => rfl, fun _ => rfl⟩ hcells' hsorted' (by simp [Document.startTable])
      refine ⟨[.heading row.line] :: groups, .cons (.heading (by simp [hname])) hleaves, ?_⟩
      simp only [List.flatMap_cons, heq]
      simp [Table.marks, Document.startTable]
    | none =>
      have hrow := hcells row List.mem_cons_self
      have hbelow' : ∀ block ∈ current.blocks, block.line < row.line :=
        fun block hblock => hbelow block hblock row List.mem_cons_self
      obtain ⟨marks, hmarks, happend⟩ := Table.marks_append htidy hname hrow hbelow'
      obtain ⟨groups, hleaves, heq⟩ := ih _ (htidy.append hrow) hcells' hsorted'
        fun block hblock r hr =>
          lt_of_le_of_lt (Table.blocks_append_le hrow hname hbelow' block hblock) (hfirst r hr)
      refine ⟨marks :: groups, .cons hmarks hleaves, ?_⟩
      simp only [heq, happend, List.flatten_cons, List.append_assoc]

/-- What holds of a table that begins, and still holds with one more row, holds of all
tables. -/
theorem Document.forall_mem_tablesFrom {P : Table → Prop}
    (hstart : ∀ row name, P (Document.startTable row name))
    (happend : ∀ {table : Table} {row : Row}, row.cells ≠ [] → P table → P (table.append row))
    {rows : List Row} :
    ∀ {current : Table}, P current → (∀ row ∈ rows, row.cells ≠ []) →
      ∀ table ∈ Document.tablesFrom current rows, P table := by
  induction rows with
  | nil =>
    intro current hcurrent _ table htable
    rwa [List.mem_singleton.mp htable]
  | cons row rows ih =>
    intro current hcurrent hcells table htable
    have hcells' : ∀ r ∈ rows, r.cells ≠ [] := fun r hr => hcells r (List.mem_cons_of_mem row hr)
    rw [Document.tablesFrom] at htable
    cases hname : Document.headingName? row with
    | some name =>
      rw [hname] at htable
      rcases List.mem_cons.mp htable with rfl | htable
      · exact hcurrent
      · exact ih (hstart row name) hcells' table htable
    | none =>
      rw [hname] at htable
      exact ih (happend (hcells row List.mem_cons_self) hcurrent) hcells' table htable

/-- The rows from the first heading on. -/
def Document.listed (rows : List Row) : List Row :=
  rows.dropWhile fun row => (Document.headingName? row).isNone

/-- The tables of rows begin with the first heading. -/
theorem Document.tablesOf_eq (rows : List Row) :
    (Document.listed rows = [] ∧ Document.tablesOf rows = []) ∨
    ∃ row name after, Document.listed rows = row :: after ∧
      Document.headingName? row = some name ∧
      Document.tablesOf rows = Document.tablesFrom (Document.startTable row name) after := by
  -- What comes before the first heading changes the unlisted table only.
  have main : ∀ (rows : List Row) (current : Table),
      (Document.listed rows = [] ∧ (Document.tablesFrom current rows).tail = []) ∨
      ∃ row name after, Document.listed rows = row :: after ∧
        Document.headingName? row = some name ∧
        (Document.tablesFrom current rows).tail =
          Document.tablesFrom (Document.startTable row name) after := by
    intro rows
    induction rows with
    | nil => exact fun current => Or.inl ⟨rfl, rfl⟩
    | cons row rows ih =>
      intro current
      rw [Document.tablesFrom, Document.listed, List.dropWhile_cons]
      cases hname : Document.headingName? row with
      | some name => exact Or.inr ⟨row, name, rows, rfl, hname, rfl⟩
      | none => exact ih (current.append row)
  exact main rows { kind := .leading }

/-- **The marks of a file**: those that its rows leave, from the first heading on. -/
theorem Document.marks_tablesOf {rows : List Row} (hcells : ∀ row ∈ rows, row.cells ≠ [])
    (hsorted : rows.Pairwise fun a b => a.line < b.line) :
    ∃ groups, List.Forall₂ Row.Leaves (Document.listed rows) groups ∧
      (Document.tablesOf rows).flatMap Table.marks = groups.flatten := by
  rcases Document.tablesOf_eq rows with
    ⟨hlisted, htables⟩ | ⟨row, name, after, hlisted, hname, htables⟩
  · refine ⟨[], hlisted ▸ .nil, ?_⟩
    rw [htables]
    rfl
  · have hsub : (row :: after).Sublist rows := hlisted ▸ List.dropWhile_sublist _
    have hcells' : ∀ r ∈ after, r.cells ≠ [] :=
      fun r hr => hcells r (hsub.mem (List.mem_cons_of_mem row hr))
    have hsorted' := (List.pairwise_cons.mp (hsorted.sublist hsub)).2
    obtain ⟨groups, hleaves, heq⟩ := Document.marks_tablesFrom
      (Document.startTable row name)
      ⟨fun _ => rfl, fun _ => rfl, fun _ => rfl⟩ hcells' hsorted' (by simp [Document.startTable])
    refine ⟨[.heading row.line] :: groups, ?_, ?_⟩
    · rw [hlisted]
      exact .cons (.heading (by simp [hname])) hleaves
    · rw [htables, heq]
      simp [Table.marks, Document.startTable]

@[inherit_doc Document.forall_mem_tablesFrom]
theorem Document.forall_mem_tablesOf {P : Table → Prop}
    (hstart : ∀ row name, P (Document.startTable row name))
    (happend : ∀ {table : Table} {row : Row}, row.cells ≠ [] → P table → P (table.append row))
    {rows : List Row} (hcells : ∀ row ∈ rows, row.cells ≠ []) :
    ∀ table ∈ Document.tablesOf rows, P table := by
  intro table htable
  rcases Document.tablesOf_eq rows with ⟨-, htables⟩ | ⟨row, name, after, hlisted, -, htables⟩
  · rw [htables] at htable
    cases htable
  · have hsub : (row :: after).Sublist rows := hlisted ▸ List.dropWhile_sublist _
    rw [htables] at htable
    exact Document.forall_mem_tablesFrom hstart happend (hstart row name)
      (fun r hr => hcells r (hsub.mem (List.mem_cons_of_mem row hr))) table htable

theorem Document.tidy_of_mem_tablesOf {rows : List Row} (hcells : ∀ row ∈ rows, row.cells ≠ []) :
    ∀ table ∈ Document.tablesOf rows, table.Tidy :=
  Document.forall_mem_tablesOf (fun _ _ => ⟨fun _ => rfl, fun _ => rfl, fun _ => rfl⟩)
    (fun hrow htidy => htidy.append hrow) hcells

/-- The blocks of a table of blocks are of the kind that it is for. -/
theorem Document.kind_of_mem_tablesOf {rows : List Row} (hcells : ∀ row ∈ rows, row.cells ≠ []) :
    ∀ table ∈ Document.tablesOf rows, ∀ kind, table.kind = .blocks kind →
      ∀ block ∈ table.blocks, block.kind = kind := by
  refine Document.forall_mem_tablesOf (fun _ _ _ _ _ hblock => ?_) (fun hrow htable => ?_) hcells
  · cases hblock
  · rename_i table row
    intro kind hkind block hblock
    rcases table.append_cases hrow with ⟨-, h⟩ | ⟨kind', hkind', -, h⟩ | ⟨-, -, h⟩ |
      ⟨front, last, -, hblocks, h⟩
    · rw [h] at hkind hblock
      exact htable kind hkind block hblock
    · rw [h] at hkind hblock
      obtain rfl : kind' = kind := TableKind.blocks.inj (hkind'.symm.trans hkind)
      rcases List.mem_append.mp hblock with hblock | hblock
      · exact htable kind' hkind block hblock
      · rw [List.mem_singleton.mp hblock, Table.openBlock]
        split <;> rfl
    · rw [h] at hkind hblock
      exact htable kind hkind block hblock
    · rw [h] at hkind hblock
      rcases List.mem_append.mp hblock with hblock | hblock
      · exact htable kind hkind block (by simp [hblocks, hblock])
      · rw [List.mem_singleton.mp hblock]
        exact htable kind hkind last (by simp [hblocks])

/-! ### The rows of a file -/

theorem Document.line_of_mem_rowsFrom {lines : List Text} {first : Int} {row : Row}
    (hrow : row ∈ Document.rowsFrom first lines) : first ≤ row.line := by
  induction lines generalizing first with
  | nil => cases hrow
  | cons text lines ih =>
    rcases List.mem_cons.mp hrow with rfl | hrow
    · exact le_refl first
    · have := ih hrow
      omega

theorem Document.map_line_rowsFrom (first : Int) (lines : List Text) :
    (Document.rowsFrom first lines).map Row.line =
      (List.range lines.length).map fun i : Nat => (i : Int) + first := by
  induction lines generalizing first with
  | nil => rfl
  | cons text lines ih =>
    rw [Document.rowsFrom, List.map_cons, ih, List.length_cons, List.range_succ_eq_map,
      List.map_cons, List.map_map]
    congr 1
    · simp [Row.ofLine]
    · refine List.map_congr_left fun i _ => ?_
      simp only [Function.comp_apply, Nat.succ_eq_add_one]
      omega

theorem Document.rowsFrom_sorted (first : Int) (lines : List Text) :
    (Document.rowsFrom first lines).Pairwise fun a b => a.line < b.line := by
  induction lines generalizing first with
  | nil => exact .nil
  | cons text lines ih =>
    refine .cons (fun row hrow => ?_) (ih (first + 1))
    have := Document.line_of_mem_rowsFrom hrow
    change first < row.line
    omega

theorem Document.cells_of_mem_rowsFrom {lines : List Text} {first : Int} {row : Row}
    (hrow : row ∈ Document.rowsFrom first lines) : row.cells ≠ [] := by
  induction lines generalizing first with
  | nil => cases hrow
  | cons text lines ih =>
    rcases List.mem_cons.mp hrow with rfl | hrow
    · exact Row.cut_ne_nil (Row.clean text)
    · exact ih hrow

/-! ### The marks of one line -/

theorem Mark.exists_leaves {rows : List Row} {groups : List (List Mark)}
    (hleaves : List.Forall₂ Row.Leaves rows groups) :
    ∀ mark ∈ groups.flatten, ∃ row ∈ rows, ∃ group, row.Leaves group ∧ mark ∈ group := by
  induction hleaves with
  | nil => simp
  | @cons row group rows groups hgroup _ ih =>
    intro mark hmark
    rcases List.mem_append.mp hmark with hmark | hmark
    · exact ⟨row, List.mem_cons_self, group, hgroup, hmark⟩
    · obtain ⟨r, hr, group, hgroup, hmark⟩ := ih mark hmark
      exact ⟨r, List.mem_cons_of_mem row hr, group, hgroup, hmark⟩

theorem Mark.exists_row {rows : List Row} {groups : List (List Mark)}
    (hleaves : List.Forall₂ Row.Leaves rows groups) :
    ∀ mark ∈ groups.flatten, ∃ row ∈ rows, mark.line = row.line := by
  intro mark hmark
  obtain ⟨row, hrow, group, hgroup, hmark⟩ := Mark.exists_leaves hleaves mark hmark
  exact ⟨row, hrow, hgroup.line_eq mark hmark⟩

/-- A line that is not among the rows has left no marks. -/
theorem Mark.filter_flatten_of_ne {rows : List Row} {groups : List (List Mark)} {line : Int}
    (hleaves : List.Forall₂ Row.Leaves rows groups) (hne : ∀ row ∈ rows, row.line ≠ line) :
    groups.flatten.filter (·.line = line) = [] := by
  refine List.filter_eq_nil_iff.mpr fun mark hmark => ?_
  obtain ⟨row, hrow, hline⟩ := Mark.exists_row hleaves mark hmark
  simpa [hline] using hne row hrow

/-- **The marks of a line** are those that its row has left. -/
theorem Mark.filter_flatten_of_mem {rows : List Row} {groups : List (List Mark)} {row : Row}
    (hleaves : List.Forall₂ Row.Leaves rows groups)
    (hsorted : rows.Pairwise fun a b => a.line < b.line) (hrow : row ∈ rows) :
    row.Leaves (groups.flatten.filter (·.line = row.line)) := by
  induction hleaves with
  | nil => cases hrow
  | @cons first group rows groups hgroup hgroups ih =>
    obtain ⟨hfirst, hsorted'⟩ := List.pairwise_cons.mp hsorted
    rw [List.flatten_cons, List.filter_append]
    rcases List.mem_cons.mp hrow with rfl | hrow
    · have hall : group.filter (·.line = row.line) = group :=
        List.filter_eq_self.mpr fun mark hmark => by simp [hgroup.line_eq mark hmark]
      rw [hall, Mark.filter_flatten_of_ne hgroups fun r hr => ne_of_gt (hfirst r hr),
        List.append_nil]
      exact hgroup
    · have hnone : group.filter (·.line = row.line) = [] :=
        List.filter_eq_nil_iff.mpr fun mark hmark => by
          simpa [hgroup.line_eq mark hmark] using ne_of_lt (hfirst row hrow)
      rw [hnone, List.nil_append]
      exact ih hsorted' hrow

/-- Marks stand in the order of their lines. -/
theorem Mark.pairwise_flatten {rows : List Row} {groups : List (List Mark)}
    (hleaves : List.Forall₂ Row.Leaves rows groups)
    (hsorted : rows.Pairwise fun a b => a.line < b.line) :
    groups.flatten.Pairwise Mark.Precedes := by
  induction hleaves with
  | nil => exact .nil
  | @cons row group rows groups hgroup hgroups ih =>
    obtain ⟨hfirst, hsorted'⟩ := List.pairwise_cons.mp hsorted
    rw [List.flatten_cons, List.pairwise_append]
    refine ⟨?_, ih hsorted', fun a ha b hb => Or.inl ?_⟩
    · cases hgroup with
      | nameAndStep _ _ =>
        exact List.pairwise_pair.mpr (Or.inr ⟨⟨row.line, row.raw, [] :: row.cells.tail⟩, rfl, rfl⟩)
      | _ => exact List.pairwise_singleton _ _
    · obtain ⟨r, hr, hline⟩ := Mark.exists_row hgroups b hb
      rw [hgroup.line_eq a ha, hline]
      exact hfirst r hr

/-! ### Reading marks back -/

/-- Taking marks apart and picking those of one line are the same in either order. -/
theorem Mark.filter_filterMap {β : Type} {f : Mark → Option β} {g : β → Int}
    (hf : ∀ mark b, f mark = some b → g b = mark.line) (marks : List Mark) (n : Int) :
    (marks.filterMap f).filter (fun b => g b = n) =
      (marks.filter (·.line = n)).filterMap f := by
  induction marks with
  | nil => rfl
  | cons mark marks ih =>
    cases hmark : f mark with
    | none =>
      rw [List.filterMap_cons_none hmark, ih, List.filter_cons]
      split
      · rw [List.filterMap_cons_none hmark]
      · rfl
    | some b =>
      rw [List.filterMap_cons_some hmark, List.filter_cons, List.filter_cons, hf mark b hmark, ih]
      split
      · rw [List.filterMap_cons_some hmark]
      · rfl

/-- All rows that a table keeps: its own, its comments, and those of its blocks. -/
def Table.keptRows (table : Table) : List Row :=
  table.rows ++ table.comments ++ table.blocks.flatMap Block.rows

namespace Document

/-- The marks of a document. -/
def marks (document : Document) : List Mark := document.tables.flatMap Table.marks

/-- All rows that a document keeps. -/
def keptRows (document : Document) : List Row := document.tables.flatMap Table.keptRows

/-- The blocks of a document, of either kind. -/
def allBlocks (document : Document) : List Block := document.tables.flatMap Table.blocks

/-- Taking the marks of a document apart, whatever one looks for in them. -/
theorem filterMap_marks {β : Type} (f : Mark → Option β) (document : Document) :
    document.marks.filterMap f = document.tables.flatMap fun table =>
      (f (.heading table.line)).toList ++ table.rows.filterMap (fun row => f (.row row)) ++
        table.comments.filterMap (fun row => f (.comment row)) ++
        table.blocks.flatMap fun block => (f (.name block.line)).toList ++
          block.rows.filterMap fun row => f (.step block.line row) := by
  have hcons (a : Mark) (l : List Mark) :
      (a :: l).filterMap f = (f a).toList ++ l.filterMap f := by
    rw [List.filterMap_cons]
    cases f a <;> rfl
  rw [marks, List.filterMap_flatMap]
  congr 1
  funext table
  simp only [Table.marks, Block.marks, hcons, List.filterMap_append, List.filterMap_flatMap,
    List.filterMap_map, List.append_assoc, Function.comp_def]

theorem filterMap_heading (document : Document) :
    document.marks.filterMap Mark.heading? = document.tables.map Table.line := by
  have hnil (blocks : List Block) : blocks.flatMap (fun _ => ([] : List Int)) = [] :=
    List.flatMap_eq_nil_iff.mpr fun _ _ => rfl
  rw [filterMap_marks, List.map_eq_flatMap]
  simp [Mark.heading?, hnil]

theorem filterMap_name (document : Document) :
    document.marks.filterMap Mark.name? = document.allBlocks.map Block.line := by
  rw [filterMap_marks, allBlocks, List.map_flatMap]
  simp [Mark.name?, List.map_eq_flatMap]

theorem filterMap_row (document : Document) :
    document.marks.filterMap Mark.row? = document.keptRows := by
  rw [filterMap_marks, keptRows]
  congr 1
  funext table
  simp [Mark.row?, Table.keptRows]

/-- Every row that is kept of a file was left by one of its lines. -/
theorem leaves_of_mem_keptRows {document : Document} {lines : List Text}
    (htables : document.tables = tablesOf (rowsFrom 1 lines)) {kept : Row}
    (h : kept ∈ document.keptRows) :
    ∃ row ∈ rowsFrom 1 lines, ∃ marks, row.Leaves marks ∧
      ∃ mark ∈ marks, mark.row? = some kept := by
  have hcells : ∀ row ∈ rowsFrom 1 lines, row.cells ≠ [] := fun _ => cells_of_mem_rowsFrom
  obtain ⟨groups, hleaves, hmarks⟩ := marks_tablesOf hcells (rowsFrom_sorted 1 lines)
  rw [← filterMap_row, marks, htables, hmarks] at h
  obtain ⟨mark, hmark, hkept⟩ := List.mem_filterMap.mp h
  obtain ⟨row, hlisted, group, hgroup, hmark⟩ := Mark.exists_leaves hleaves mark hmark
  exact ⟨row, (List.dropWhile_sublist _).subset hlisted, group, hgroup, mark, hmark, hkept⟩

/-- Every row that is kept of a file has cells. -/
theorem cells_of_mem_keptRows {document : Document} {lines : List Text}
    (htables : document.tables = tablesOf (rowsFrom 1 lines)) :
    ∀ row ∈ document.keptRows, row.cells ≠ [] := by
  intro kept hkept
  obtain ⟨row, hrow, marks, hleaves, mark, hmark, hkept⟩ := leaves_of_mem_keptRows htables hkept
  exact hleaves.cells_ne_nil (cells_of_mem_rowsFrom hrow) mark hmark kept hkept

/-- The test cases of a file are test cases, and its keywords are keywords. -/
theorem kind_of_mem_blocks {document : Document} {lines : List Text}
    (htables : document.tables = tablesOf (rowsFrom 1 lines)) :
    ∀ kind, ∀ block ∈ document.blocks kind, block.kind = kind := by
  intro kind block hblock
  obtain ⟨table, htable, hblock⟩ := List.mem_flatMap.mp hblock
  obtain ⟨htable, hkind⟩ := List.mem_filter.mp htable
  rw [htables] at htable
  exact kind_of_mem_tablesOf (fun _ => cells_of_mem_rowsFrom) table htable kind
    (of_decide_eq_true hkind) block hblock

theorem filterMap_stepOf (document : Document) (line : Int) :
    document.marks.filterMap (Mark.stepOf? line) =
      (document.allBlocks.filter (·.line = line)).flatMap Block.rows := by
  have hblocks (blocks : List Block) :
      (blocks.flatMap fun block =>
        block.rows.filterMap fun row => if block.line = line then some row else none) =
      (blocks.filter (·.line = line)).flatMap Block.rows := by
    induction blocks with
    | nil => rfl
    | cons block blocks ih =>
      rw [List.flatMap_cons, ih, List.filter_cons]
      by_cases hline : block.line = line <;> simp [hline]
  rw [filterMap_marks, allBlocks, List.filter_flatMap, List.flatMap_assoc]
  simp [Mark.stepOf?, hblocks]

/-! What the marks of a line say about the tables, blocks and rows of that line. -/

theorem tables_of_line (document : Document) (n : Int) :
    (document.tables.filter (·.line = n)).map Table.line =
      (document.marks.filter (·.line = n)).filterMap Mark.heading? := by
  rw [← Mark.filter_filterMap (g := id) ?_, filterMap_heading, List.filter_map]
  · rfl
  · intro mark b h
    cases mark <;> simp_all [Mark.heading?, Mark.line]

theorem blocks_of_line (document : Document) (n : Int) :
    (document.allBlocks.filter (·.line = n)).map Block.line =
      (document.marks.filter (·.line = n)).filterMap Mark.name? := by
  rw [← Mark.filter_filterMap (g := id) ?_, filterMap_name, List.filter_map]
  · rfl
  · intro mark b h
    cases mark <;> simp_all [Mark.name?, Mark.line]

theorem rows_of_line (document : Document) (n : Int) :
    document.keptRows.filter (·.line = n) =
      (document.marks.filter (·.line = n)).filterMap Mark.row? := by
  rw [← Mark.filter_filterMap (g := Row.line) ?_, filterMap_row]
  intro mark b h
  cases mark <;> simp_all [Mark.row?, Mark.line]

theorem steps_of_line (document : Document) (n : Int) :
    ((document.allBlocks.filter (·.line = n)).flatMap Block.rows).filter (·.line = n) =
      (document.marks.filter (·.line = n)).filterMap (Mark.stepOf? n) := by
  rw [← Mark.filter_filterMap (g := Row.line) ?_, filterMap_stepOf]
  intro mark b h
  cases mark <;> simp_all [Mark.stepOf?, Mark.line]

/-! ### Every line is kept once -/

/-- Nothing in a document is from the given line. -/
def KeepsNothing (document : Document) (line : Int) : Prop :=
  document.tables.filter (·.line = line) = [] ∧ document.allBlocks.filter (·.line = line) = [] ∧
    document.keptRows.filter (·.line = line) = []

/-- The line of a row is the line of exactly one table. -/
def KeepsHeading (document : Document) (row : Row) : Prop :=
  ∃ table, document.tables.filter (·.line = row.line) = [table]

/-- The row is kept as it is, in exactly one place, and its line is that of no block. -/
def KeepsRow (document : Document) (row : Row) : Prop :=
  document.keptRows.filter (·.line = row.line) = [row] ∧
    document.allBlocks.filter (·.line = row.line) = []

/-- The line of a row is the line of exactly one block. If the row has further cells,
they are once among the rows of this block, and if not, no row is from this line. -/
def KeepsName (document : Document) (row : Row) : Prop :=
  ∃ block, document.allBlocks.filter (·.line = row.line) = [block] ∧
    block.rows.filter (·.line = row.line) = document.keptRows.filter (·.line = row.line) ∧
    document.keptRows.filter (·.line = row.line) =
      if 1 < row.cells.length then [{ row with cells := [] :: row.cells.tail }] else []

/-- Whether some heading stands on a line or above it. -/
def Begun (rows : List Row) (line : Int) : Prop :=
  ∃ row ∈ rows, (headingName? row).isSome = true ∧ row.line ≤ line

theorem keepsNothing_of_marks {document : Document} {line : Int}
    (h : document.marks.filter (·.line = line) = []) : document.KeepsNothing line := by
  have htables := document.tables_of_line line
  have hblocks := document.blocks_of_line line
  rw [h, List.filterMap_nil, List.map_eq_nil_iff] at htables hblocks
  exact ⟨htables, hblocks, by rw [rows_of_line, h, List.filterMap_nil]⟩

theorem not_keepsHeading {document : Document} {row : Row}
    (h : (document.tables.filter (·.line = row.line)).map Table.line = []) :
    ¬document.KeepsHeading row := by
  rintro ⟨table, htable⟩
  rw [htable] at h
  cases h

theorem not_keepsName {document : Document} {row : Row}
    (h : (document.allBlocks.filter (·.line = row.line)).map Block.line = []) :
    ¬document.KeepsName row := by
  rintro ⟨block, hblock, -⟩
  rw [hblock] at h
  cases h

/-- A line of which the row is kept, and nothing else. -/
theorem keeps_row {document : Document} {row : Row}
    (htables : (document.tables.filter (·.line = row.line)).map Table.line = [])
    (hblocks : (document.allBlocks.filter (·.line = row.line)).map Block.line = [])
    (hrows : document.keptRows.filter (·.line = row.line) = [row]) :
    ¬document.KeepsHeading row ∧ document.KeepsRow row ∧ ¬document.KeepsName row :=
  ⟨not_keepsHeading htables, ⟨hrows, List.map_eq_nil_iff.mp hblocks⟩, not_keepsName hblocks⟩

/-- A line of which the name of a block is kept, and what else is kept is in this block. -/
theorem keeps_name {document : Document} {row : Row} {line : Int}
    (htables : (document.tables.filter (·.line = row.line)).map Table.line = [])
    (hblocks : (document.allBlocks.filter (·.line = row.line)).map Block.line = [line])
    (hrows : document.keptRows.filter (·.line = row.line) =
      if 1 < row.cells.length then [{ row with cells := [] :: row.cells.tail }] else [])
    (hsteps : ((document.allBlocks.filter (·.line = row.line)).flatMap Block.rows).filter
      (·.line = row.line) = document.keptRows.filter (·.line = row.line)) :
    ¬document.KeepsHeading row ∧ ¬document.KeepsRow row ∧ document.KeepsName row := by
  obtain ⟨block, hblock, -⟩ := List.map_eq_singleton_iff.mp hblocks
  rw [hblock, List.flatMap_singleton] at hsteps
  refine ⟨not_keepsHeading htables, ?_, block, hblock, hsteps, hrows⟩
  rintro ⟨-, hnone⟩
  rw [hblock] at hnone
  cases hnone

/-- **A line that has left its marks is kept in exactly one of three ways**, and as a
heading exactly if it is one. -/
theorem keeps_of_leaves {document : Document} {row : Row}
    (h : row.Leaves (document.marks.filter (·.line = row.line))) :
    ((document.KeepsHeading row ∧ ¬document.KeepsRow row ∧ ¬document.KeepsName row) ∨
      (¬document.KeepsHeading row ∧ document.KeepsRow row ∧ ¬document.KeepsName row) ∨
      (¬document.KeepsHeading row ∧ ¬document.KeepsRow row ∧ document.KeepsName row)) ∧
    (document.KeepsHeading row ↔ (headingName? row).isSome = true) := by
  have htables := document.tables_of_line row.line
  have hblocks := document.blocks_of_line row.line
  have hrows := document.rows_of_line row.line
  have hsteps := document.steps_of_line row.line
  generalize document.marks.filter (·.line = row.line) = marks at h htables hblocks hrows hsteps
  have hno (hnone : headingName? row = none) (hnot : ¬document.KeepsHeading row) :
      document.KeepsHeading row ↔ (headingName? row).isSome = true :=
    iff_of_false hnot (by simp [hnone])
  cases h with
  | heading hsome =>
    obtain ⟨table, htable, -⟩ := List.map_eq_singleton_iff.mp htables
    refine ⟨Or.inl ⟨⟨table, htable⟩, ?_, not_keepsName hblocks⟩, iff_of_true ⟨table, htable⟩ hsome⟩
    rintro ⟨hrow, -⟩
    rw [hrows] at hrow
    cases hrow
  | row hnone =>
    exact ⟨Or.inr (Or.inl (keeps_row htables hblocks hrows)), hno hnone (not_keepsHeading htables)⟩
  | comment hnone =>
    exact ⟨Or.inr (Or.inl (keeps_row htables hblocks hrows)), hno hnone (not_keepsHeading htables)⟩
  | step block hnone _ =>
    exact ⟨Or.inr (Or.inl (keeps_row htables hblocks hrows)), hno hnone (not_keepsHeading htables)⟩
  | name hnone hcells =>
    have hrows' : document.keptRows.filter (·.line = row.line) =
        if 1 < row.cells.length then [{ row with cells := [] :: row.cells.tail }] else [] := by
      rw [hrows, if_neg (Nat.not_lt.mpr hcells)]
      rfl
    exact ⟨Or.inr (Or.inr (keeps_name htables hblocks hrows' (hsteps.trans hrows.symm))),
      hno hnone (not_keepsHeading htables)⟩
  | nameAndStep hnone hcells =>
    have hrows' : document.keptRows.filter (·.line = row.line) =
        if 1 < row.cells.length then [{ row with cells := [] :: row.cells.tail }] else [] := by
      rw [hrows, if_pos hcells]
      rfl
    have hsteps' : ((document.allBlocks.filter (·.line = row.line)).flatMap Block.rows).filter
        (·.line = row.line) = document.keptRows.filter (·.line = row.line) := by
      rw [hsteps, hrows]
      simp [List.filterMap_cons, Mark.stepOf?, Mark.row?]
    exact ⟨Or.inr (Or.inr (keeps_name htables hblocks hrows' hsteps')),
      hno hnone (not_keepsHeading htables)⟩

/-- The rows that are listed are those on or below the first heading. -/
theorem mem_listed_iff {rows : List Row} (hsorted : rows.Pairwise fun a b => a.line < b.line)
    {row : Row} (hrow : row ∈ rows) : row ∈ listed rows ↔ Begun rows row.line := by
  induction rows with
  | nil => cases hrow
  | cons first rows ih =>
    obtain ⟨hfirst, hsorted'⟩ := List.pairwise_cons.mp hsorted
    rw [listed, List.dropWhile_cons]
    cases hname : headingName? first with
    | some name =>
      refine iff_of_true hrow ⟨first, List.mem_cons_self, by simp [hname], ?_⟩
      rcases List.mem_cons.mp hrow with rfl | hrow
      · exact le_refl row.line
      · exact le_of_lt (hfirst row hrow)
    | none =>
      rcases List.mem_cons.mp hrow with rfl | hrow
      -- The first row itself: all that could have begun a table stands below it.
      · refine iff_of_false (fun hmem => ?_) ?_
        · have hmem' : row ∈ rows := (List.dropWhile_sublist _).mem hmem
          exact absurd (hfirst row hmem') (lt_irrefl row.line)
        · rintro ⟨heading, hheading, hsome, hle⟩
          rcases List.mem_cons.mp hheading with rfl | hheading
          · simp [hname] at hsome
          · exact absurd (hfirst heading hheading) (not_lt.mpr hle)
      · refine (ih hsorted' hrow).trans ⟨?_, ?_⟩
        · rintro ⟨heading, hheading, hsome, hle⟩
          exact ⟨heading, List.mem_cons_of_mem first hheading, hsome, hle⟩
        · rintro ⟨heading, hheading, hsome, hle⟩
          rcases List.mem_cons.mp hheading with rfl | hheading
          · simp [hname] at hsome
          · exact ⟨heading, hheading, hsome, hle⟩

/-- What it means that a document keeps every line of a file, and keeps it once. -/
structure KeepsEachLine (document : Document) (lines : List Text) : Prop where
  /-- The lines are numbered from 1 on. -/
  numbers : (rowsFrom 1 lines).map Row.line =
    (List.range lines.length).map fun i : Nat => (i : Int) + 1
  /-- Nothing is kept of lines before the first heading, or of lines that the file does
  not have. -/
  nothing : ∀ line, ¬(∃ row ∈ rowsFrom 1 lines, row.line = line ∧ Begun (rowsFrom 1 lines) line) →
    document.KeepsNothing line
  /-- Every other line is kept in exactly one of three ways. -/
  once : ∀ row ∈ rowsFrom 1 lines, Begun (rowsFrom 1 lines) row.line →
    (document.KeepsHeading row ∧ ¬document.KeepsRow row ∧ ¬document.KeepsName row) ∨
    (¬document.KeepsHeading row ∧ document.KeepsRow row ∧ ¬document.KeepsName row) ∨
    (¬document.KeepsHeading row ∧ ¬document.KeepsRow row ∧ document.KeepsName row)
  /-- A line is kept as a heading exactly if it is recognised as one. -/
  heading : ∀ row ∈ rowsFrom 1 lines, Begun (rowsFrom 1 lines) row.line →
    (document.KeepsHeading row ↔ (headingName? row).isSome = true)
  /-- A table of blocks has no rows of its own, and no other table has comments or
  blocks. -/
  tidy : ∀ table ∈ document.tables, table.Tidy
  /-- In the order of the tables the lines increase, except from the name of a block to
  the row of this block on the same line. -/
  sorted : document.marks.Pairwise Mark.Precedes

/-- **No line is lost, duplicated or moved** in a file that can be decoded. -/
theorem keepsEachLine_of_decode {bytes : Bytes} {source : Text}
    (hsource : Utf8.decode bytes = .ok source) (name path : Text) :
    ∃ lines document, Utf8.decodeLines bytes = .ok lines ∧
      ofBytes name path bytes = .ok document ∧ document.KeepsEachLine lines := by
  obtain ⟨lines, hlines⟩ : ∃ lines, Utf8.decodeLines bytes = .ok lines :=
    ⟨_, Utf8.decodeLines_of_decode hsource⟩
  have hcells : ∀ row ∈ rowsFrom 1 lines, row.cells ≠ [] :=
    fun row hrow => cells_of_mem_rowsFrom hrow
  have hsorted := rowsFrom_sorted 1 lines
  obtain ⟨groups, hleaves, hmarks⟩ := marks_tablesOf hcells hsorted
  have hsub : (listed (rowsFrom 1 lines)).Sublist (rowsFrom 1 lines) := List.dropWhile_sublist _
  -- Each listed line has left its marks, and no other line has.
  have hline {row : Row} (hrow : row ∈ rowsFrom 1 lines)
      (hbegun : Begun (rowsFrom 1 lines) row.line) :
      row.Leaves (groups.flatten.filter (·.line = row.line)) :=
    Mark.filter_flatten_of_mem hleaves (hsorted.sublist hsub)
      ((mem_listed_iff hsorted hrow).mpr hbegun)
  refine ⟨lines, _, hlines, ofBytes_of_lines hsource hlines name path, ?_⟩
  constructor
  · exact map_line_rowsFrom 1 lines
  · intro line hnone
    refine keepsNothing_of_marks ?_
    rw [marks, hmarks]
    refine Mark.filter_flatten_of_ne hleaves fun row hrow hrowline => hnone ?_
    have hmem : row ∈ rowsFrom 1 lines := hsub.mem hrow
    exact ⟨row, hmem, hrowline, hrowline ▸ (mem_listed_iff hsorted hmem).mp hrow⟩
  · intro row hrow hbegun
    refine (keeps_of_leaves ?_).1
    rw [marks, hmarks]
    exact hline hrow hbegun
  · intro row hrow hbegun
    refine (keeps_of_leaves ?_).2
    rw [marks, hmarks]
    exact hline hrow hbegun
  · exact tidy_of_mem_tablesOf hcells
  · rw [marks, hmarks]
    exact Mark.pairwise_flatten hleaves (hsorted.sublist hsub)

/-- A file of two lines, of which the second opens a test case and is its first row. -/
theorem keepsEachLine_test_on_one_line :
    Utf8.decode [42, 84, 101, 115, 116, 32, 99, 97, 115, 101, 10, 84, 32, 32, 97] =
        .ok "*Test case\nT  a" ∧
      ∃ lines document,
        Utf8.decodeLines [42, 84, 101, 115, 116, 32, 99, 97, 115, 101, 10, 84, 32, 32, 97] =
          .ok lines ∧
        ofBytes "a" "/a.robot"
          [42, 84, 101, 115, 116, 32, 99, 97, 115, 101, 10, 84, 32, 32, 97] = .ok document ∧
        document.KeepsEachLine lines :=
  have h : Utf8.decode [42, 84, 101, 115, 116, 32, 99, 97, 115, 101, 10, 84, 32, 32, 97] =
      .ok "*Test case\nT  a" := by rfl
  ⟨h, keepsEachLine_of_decode h "a" "/a.robot"⟩

end Document

end SuiteLint
