import Mathlib.Tactic
import SuiteLint.Block

/-!
# Statements and their rows

The statements of a block are put together row by row: one statement is always under way, a
row either goes on with it or puts it on the list and begins the next, and what is still
under way at the end is put on the list too. A statement without cells is left out.

Here the rows are first cut into *stretches*, each of which is a row and the rows that
continue it, and a statement is read off each stretch (`Statement.ofBlock_eq`). Stretches are
easier to count and to compare than statements: put one after the other they are the rows
again (`Stretch.flatMap_rows_cut`), and the rows that begin them are the first row and those
that continue nothing (`Stretch.map_head_cut`). What statements have to do with rows follows
from these two facts (`Block.statements_cover`).
-/

namespace SuiteLint

namespace Row

/-- Whether the cells of a row begin with an empty one and three dots. Inside a block, such a
row continues the statement before it, unless it is the first row. -/
def isContinuation (row : Row) : Bool := List.isPrefixOf [[], "..."] row.cells

/-- The cells that a row adds to the statement it is in, where it is not the first row. -/
def share (row : Row) : List Text := if row.isContinuation then row.cells.drop 2 else row.cells

/-- The cells that rows add to statements. -/
def shares : List Row → List Text
  | [] => []
  | first :: others => first.cells ++ others.flatMap share

/-- The rows that are not continuations, which the first row never is. -/
def openers : List Row → List Row
  | [] => []
  | first :: others => first :: others.filter (!·.isContinuation)

theorem isContinuation_iff {row : Row} :
    row.isContinuation = true ↔ ∃ more, row.cells = [] :: "..." :: more := by
  rw [isContinuation, List.isPrefixOf_iff_prefix]
  exact exists_congr fun _ => eq_comm

end Row

/-- The continuations of a block are recognised by their first two cells. -/
theorem Statement.blockContinuation?_eq (row : Row) :
    blockContinuation? row = if row.isContinuation then some (row.cells.drop 2) else none := by
  by_cases h : row.isContinuation = true
  · obtain ⟨more, hcells⟩ := Row.isContinuation_iff.mp h
    rw [if_pos h, blockContinuation?, hcells]
    rfl
  · rw [if_neg h, blockContinuation?]
    split
    next a b more hcells =>
      refine if_neg fun ⟨ha, hb⟩ => h (Row.isContinuation_iff.mpr ⟨more, ?_⟩)
      rw [hcells, ha, hb]
    next => rfl

/-! ### Stretches of rows -/

/-- A row, and rows after it that are continuations. -/
structure Stretch where
  /-- The row it begins with. -/
  head : Row
  /-- The other rows. -/
  more : List Row
  /-- The other rows are continuations. -/
  continues : ∀ row ∈ more, row.isContinuation = true

namespace Stretch

/-- The rows of a stretch. -/
def rows (stretch : Stretch) : List Row := stretch.head :: stretch.more

/-- The row that a stretch ends with. -/
def last (stretch : Stretch) : Row := stretch.rows.getLast (List.cons_ne_nil _ _)

/-- The statement that a stretch makes up. -/
def statement (stretch : Stretch) : Statement where
  cells := stretch.head.cells ++ stretch.more.flatMap fun row => row.cells.drop 2
  first := stretch.head.line
  last := stretch.last.line

/-- The stretch of a single row. -/
def single (row : Row) : Stretch := ⟨row, [], nofun⟩

/-- The stretch with one more continuation. -/
def extend (stretch : Stretch) (row : Row) (h : row.isContinuation = true) : Stretch where
  head := stretch.head
  more := stretch.more ++ [row]
  continues := by
    intro other hother
    rcases List.mem_append.mp hother with hother | hother
    · exact stretch.continues other hother
    · rwa [List.mem_singleton.mp hother]

theorem statement_single (row : Row) : (single row).statement = Statement.ofRow row := by
  simp [statement, single, last, rows, Statement.ofRow]

theorem rows_extend (stretch : Stretch) (row : Row) (h : row.isContinuation = true) :
    (stretch.extend row h).rows = stretch.rows ++ [row] := rfl

theorem statement_extend (stretch : Stretch) (row : Row) (h : row.isContinuation = true) :
    (stretch.extend row h).statement = stretch.statement.extend (row.cells.drop 2) row.line := by
  simp [statement, extend, last, rows, Statement.extend]

/-- The stretches of the rows that follow those of a stretch, that stretch first. -/
def cutFrom (current : Stretch) : List Row → List Stretch
  | [] => [current]
  | row :: rows =>
    if h : row.isContinuation then cutFrom (current.extend row h) rows
    else current :: cutFrom (single row) rows

/-- The stretches of rows. -/
def cut : List Row → List Stretch
  | [] => []
  | first :: others => cutFrom (single first) others

theorem flatMap_rows_cutFrom (current : Stretch) (rows : List Row) :
    (cutFrom current rows).flatMap Stretch.rows = current.rows ++ rows := by
  induction rows generalizing current with
  | nil => simp [cutFrom]
  | cons row rows ih =>
    rw [cutFrom]
    split
    · rw [ih, rows_extend, List.append_assoc, List.singleton_append]
    · rw [List.flatMap_cons, ih]
      rfl

/-- The stretches of rows are the rows, cut up. -/
theorem flatMap_rows_cut (rows : List Row) : (cut rows).flatMap Stretch.rows = rows := by
  cases rows with
  | nil => rfl
  | cons first others => exact flatMap_rows_cutFrom (single first) others

/-- The rows of a stretch are rows of the whole. -/
theorem mem_of_mem_cut {rows : List Row} {stretch : Stretch} (h : stretch ∈ cut rows) {row : Row}
    (hrow : row ∈ stretch.rows) : row ∈ rows := by
  rw [← flatMap_rows_cut rows]
  exact List.mem_flatMap.mpr ⟨stretch, h, hrow⟩

theorem map_head_cutFrom (current : Stretch) (rows : List Row) :
    (cutFrom current rows).map head = current.head :: rows.filter (!·.isContinuation) := by
  induction rows generalizing current with
  | nil => rfl
  | cons row rows ih =>
    rw [cutFrom]
    split
    next h => rw [ih, List.filter_cons_of_neg (by simp [h]), extend]
    next h => rw [List.map_cons, ih, List.filter_cons_of_pos (by simp [h]), single]

/-- A stretch begins at each row that is not a continuation, and nowhere else. -/
theorem map_head_cut (rows : List Row) : (cut rows).map head = Row.openers rows := by
  cases rows with
  | nil => rfl
  | cons first others => exact map_head_cutFrom (single first) others

/-- Only the first stretch can begin with a row that looks like a continuation. -/
theorem isContinuation_head {rows : List Row} {first : Stretch} {others : List Stretch}
    (h : cut rows = first :: others) {stretch : Stretch} (hmem : stretch ∈ others) :
    stretch.head.isContinuation = false := by
  have hheads := map_head_cut rows
  rw [h, List.map_cons] at hheads
  cases rows with
  | nil => cases hheads
  | cons row rows =>
    have hothers : others.map head = rows.filter (!·.isContinuation) := (List.cons.inj hheads).2
    have hhead : stretch.head ∈ rows.filter (!·.isContinuation) :=
      hothers ▸ List.mem_map_of_mem hmem
    simpa using (List.mem_filter.mp hhead).2

/-- Where a stretch stands among the rows. It begins with a row that continues nothing, and it
ends where the next row is not a continuation. -/
theorem exists_of_mem_cut {rows : List Row} {stretch : Stretch} (h : stretch ∈ cut rows) :
    ∃ before after, rows = before ++ stretch.rows ++ after ∧
      (before ≠ [] → stretch.head.isContinuation = false) ∧
      ∀ row ∈ after.head?, row.isContinuation = false := by
  obtain ⟨earlier, later, hcut⟩ := List.append_of_mem h
  refine ⟨earlier.flatMap Stretch.rows, later.flatMap Stretch.rows, ?_, fun hbefore => ?_, ?_⟩
  · rw [← flatMap_rows_cut rows, hcut, List.flatMap_append, List.flatMap_cons, List.append_assoc]
  · cases earlier with
    | nil => exact absurd rfl hbefore
    | cons first earlier =>
      exact isContinuation_head hcut (List.mem_append_right _ List.mem_cons_self)
  · intro row hrow
    cases later with
    | nil => cases hrow
    | cons next later =>
      obtain rfl : next.head = row := Option.some.inj hrow
      cases earlier with
      | nil => exact isContinuation_head hcut List.mem_cons_self
      | cons first earlier =>
        refine isContinuation_head hcut (List.mem_append_right _ ?_)
        exact List.mem_cons_of_mem _ List.mem_cons_self

theorem last_mem_rows (stretch : Stretch) : stretch.last ∈ stretch.rows := List.getLast_mem _

/-- A stretch of rows that go down the page begins no later than it ends. -/
theorem line_head_le_line_last {stretch : Stretch}
    (h : stretch.rows.Pairwise fun a b => a.line < b.line) :
    stretch.head.line ≤ stretch.last.line := by
  rcases List.mem_cons.mp stretch.last_mem_rows with hlast | hlast
  · rw [hlast]
  · exact (List.rel_of_pairwise_cons h hlast).le

end Stretch

/-! ### Statements from stretches -/

namespace Statement

theorem unlessEmpty_eq (s : Statement) : s.unlessEmpty = [s].filter (!·.cells.isEmpty) := by
  cases h : s.cells.isEmpty <;> simp [unlessEmpty, h]

theorem assembleFrom_eq (current : Stretch) (rows : List Row) :
    assembleFrom blockContinuation? current.statement rows =
      ((Stretch.cutFrom current rows).map Stretch.statement).filter (!·.cells.isEmpty) := by
  induction rows generalizing current with
  | nil => exact unlessEmpty_eq current.statement
  | cons row rows ih =>
    rw [assembleFrom, blockContinuation?_eq, Stretch.cutFrom]
    by_cases h : row.isContinuation = true
    · rw [if_pos h, dif_pos h, ← ih, Stretch.statement_extend]
    · rw [if_neg h, dif_neg h, List.map_cons, ← List.singleton_append, List.filter_append,
        ← ih, ← unlessEmpty_eq, Stretch.statement_single]

/-- The statements of a block are those of the stretches of its rows, except that one without
cells is left out. -/
theorem ofBlock_eq (rows : List Row) :
    ofBlock rows = ((Stretch.cut rows).map Stretch.statement).filter (!·.cells.isEmpty) := by
  cases rows with
  | nil => rfl
  | cons first others =>
    rw [ofBlock, assemble, ← Stretch.statement_single, assembleFrom_eq, Stretch.cut]

theorem flatMap_cells_filter (statements : List Statement) :
    (statements.filter (!·.cells.isEmpty)).flatMap cells = statements.flatMap cells := by
  induction statements with
  | nil => rfl
  | cons s statements ih =>
    cases h : s.cells.isEmpty
    · simp [h, ih]
    · simp [ih, List.isEmpty_iff.mp h]

theorem flatMap_cells_cutFrom (current : Stretch) (rows : List Row) :
    ((Stretch.cutFrom current rows).map Stretch.statement).flatMap cells =
      current.statement.cells ++ rows.flatMap Row.share := by
  induction rows generalizing current with
  | nil => simp [Stretch.cutFrom]
  | cons row rows ih =>
    rw [Stretch.cutFrom, List.flatMap_cons, Row.share]
    by_cases h : row.isContinuation = true
    · rw [dif_pos h, if_pos h, ih, Stretch.statement_extend, extend, List.append_assoc]
    · rw [dif_neg h, if_neg h, List.map_cons, List.flatMap_cons, ih, Stretch.statement_single,
        ofRow]

/-- No cell is lost when rows are put together to statements, and none is added. -/
theorem flatMap_cells_ofBlock (rows : List Row) :
    (ofBlock rows).flatMap cells = Row.shares rows := by
  rw [ofBlock_eq, flatMap_cells_filter]
  cases rows with
  | nil => rfl
  | cons first others =>
    rw [Stretch.cut, flatMap_cells_cutFrom, Stretch.statement_single, ofRow, Row.shares]

theorem mem_ofBlock {rows : List Row} {s : Statement} :
    s ∈ ofBlock rows ↔ (∃ stretch ∈ Stretch.cut rows, stretch.statement = s) ∧ s.cells ≠ [] := by
  simp [ofBlock_eq]

/-- If no row is empty, every stretch makes up a statement. -/
theorem ofBlock_eq_map {rows : List Row} (h : ∀ row ∈ rows, row.cells ≠ []) :
    ofBlock rows = (Stretch.cut rows).map Stretch.statement := by
  rw [ofBlock_eq, List.filter_eq_self]
  intro s hs
  obtain ⟨stretch, hstretch, rfl⟩ := List.mem_map.mp hs
  have hrow : stretch.head ∈ rows := Stretch.mem_of_mem_cut hstretch List.mem_cons_self
  simp [Stretch.statement, h _ hrow]

/-- What statements have to do with the rows that they are put together from. -/
structure Cover (rows : List Row) (statements : List Statement) : Prop where
  /-- No cell is lost, and none is added. -/
  cells : statements.flatMap Statement.cells = Row.shares rows
  /-- No statement is empty. -/
  nonempty : ∀ s ∈ statements, s.cells ≠ []
  /-- A statement begins with a row that is not a continuation, goes on over the continuations
  that follow it, and ends with the last of them. -/
  place : ∀ s ∈ statements, ∃ before head more after, rows = before ++ head :: more ++ after ∧
    (before ≠ [] → head.isContinuation = false) ∧ (∀ row ∈ more, row.isContinuation = true) ∧
    (∀ row ∈ after.head?, row.isContinuation = false) ∧
    s.cells = head.cells ++ more.flatMap (fun row => row.cells.drop 2) ∧
    s.first = head.line ∧ s.last = ((head :: more).getLast (List.cons_ne_nil _ _)).line
  /-- No statement ends before it begins. -/
  interval : ∀ s ∈ statements, s.first ≤ s.last
  /-- Each statement ends before those after it begin. -/
  ordered : statements.Pairwise fun s t => s.last < t.first
  /-- Unless some row is empty, there are as many statements as rows that are not
  continuations. -/
  count : (∀ row ∈ rows, row.cells ≠ []) → statements.length = (Row.openers rows).length

end Statement

namespace Block

/-- **The statements of a block cover its rows**, one after the other and without a loss. -/
theorem statements_cover {block : Block} (h : block.rows.Pairwise fun a b => a.line < b.line) :
    Statement.Cover block.rows block.statements := by
  have hstretches := h
  rw [← Stretch.flatMap_rows_cut block.rows, List.pairwise_flatMap] at hstretches
  obtain ⟨hwithin, hbetween⟩ := hstretches
  refine ⟨Statement.flatMap_cells_ofBlock block.rows, fun s hs => (Statement.mem_ofBlock.mp hs).2,
    fun s hs => ?_, fun s hs => ?_, ?_, fun hrows => ?_⟩
  · obtain ⟨⟨stretch, hstretch, rfl⟩, -⟩ := Statement.mem_ofBlock.mp hs
    obtain ⟨before, after, hplace, hhead, hafter⟩ := Stretch.exists_of_mem_cut hstretch
    exact ⟨before, stretch.head, stretch.more, after, hplace, hhead, stretch.continues, hafter,
      rfl, rfl, rfl⟩
  · obtain ⟨⟨stretch, hstretch, rfl⟩, -⟩ := Statement.mem_ofBlock.mp hs
    exact Stretch.line_head_le_line_last (hwithin stretch hstretch)
  · rw [statements, Statement.ofBlock_eq]
    refine (List.pairwise_map.mpr (hbetween.imp ?_)).filter _
    intro earlier later hlines
    exact hlines _ earlier.last_mem_rows _ List.mem_cons_self
  · rw [statements, Statement.ofBlock_eq_map hrows, ← Stretch.map_head_cut, List.length_map,
      List.length_map]

/-- A test case whose first row looks like a continuation. -/
def dotted : Block where
  kind := .test
  line := 3
  name := "T"
  rows := [⟨4, [], [[], "...", "a"]⟩, ⟨5, [], [[], "...", "b"]⟩, ⟨6, [], [[], "log"]⟩,
    ⟨8, [], [[], "...", "x"]⟩, ⟨9, [], [[], "..."]⟩]

/-- Five rows make two statements, of which the first begins with three dots of its own. -/
theorem statements_cover_dotted :
    dotted.rows.Pairwise (fun a b => a.line < b.line) ∧
      dotted.statements = [⟨[[], "...", "a", "b"], 4, 5⟩, ⟨[[], "log", "x"], 6, 9⟩] ∧
      Statement.Cover dotted.rows dotted.statements ∧
      dotted.statements.length = (Row.openers dotted.rows).length := by
  have hlines : dotted.rows.Pairwise fun a b => a.line < b.line := by decide
  have hcover := statements_cover hlines
  exact ⟨hlines, by decide, hcover, hcover.count (by decide)⟩

end Block

end SuiteLint
