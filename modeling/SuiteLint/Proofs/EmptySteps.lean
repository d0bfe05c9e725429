import Mathlib.Data.List.DropRight
import Mathlib.Tactic
import SuiteLint.Proofs.TrailingComments
import SuiteLint.Proofs.TwoReadings

/-!
# Steps without content

A step that comes from a blank line is not counted, and a blank line is recognised by its only
cell, which is empty. But a line can be blank and have several cells: two bars with nothing
between them make two empty cells, and so does the name of a test case with an empty cell
behind it. The step that comes from such a line is *hollow*, and it is counted
(`Document.countedSteps_of_decode`).

Without bars there are no hollow steps. Blanks at the end of a line are dropped before it is
cut, so that a line of the spaced format has nothing but one empty cell, or its last cell is
not empty (`Row.endsFull_of_spaced`). This is kept when the name of a block is taken out of a
row, and if it is true of all rows of a statement, the statement is not hollow, whatever
continuations it goes on over (`Stretch.isHollow_of_endsFull`).
-/

namespace SuiteLint

/-! ### Three kinds of statements -/

namespace Statement

/-- Whether some cell of a statement is not empty. -/
def isFilled (s : Statement) : Bool := s.cells.any (!·.isEmpty)

/-- Whether a statement has two or more cells, and all of them are empty. -/
def isHollow (s : Statement) : Bool := s.cells.length ≥ 2 && s.cells.all List.isEmpty

theorem isHollow_iff {s : Statement} :
    s.isHollow = true ↔ 2 ≤ s.cells.length ∧ ∀ cell ∈ s.cells, cell = [] := by
  simp [isHollow]

theorem isBlank_of_isFilled {s : Statement} (h : s.isFilled = true) : s.isBlank = false := by
  by_contra hblank
  rw [Bool.not_eq_false, isBlank, beq_iff_eq] at hblank
  rw [isFilled, hblank] at h
  cases h

/-- A statement that is neither blank nor filled is hollow, if it has cells. -/
theorem isHollow_eq {s : Statement} (h : s.cells ≠ []) :
    s.isHollow = (!s.isFilled && !s.isBlank) := by
  have hall : (!s.isFilled) = s.cells.all List.isEmpty := List.all_eq_not_any_not.symm
  rw [hall, isHollow, isBlank]
  rcases hcells : s.cells with _ | ⟨cell, _ | ⟨next, others⟩⟩
  · exact absurd hcells h
  · cases cell <;> rfl
  · simp

end Statement

namespace Block

/-- The steps of a block with a cell that is not empty. -/
def filledSteps (block : Block) : List Statement := block.steps.filter Statement.isFilled

/-- The steps of a block with several cells that are all empty. -/
def hollowSteps (block : Block) : List Statement := block.steps.filter Statement.isHollow

theorem cells_of_mem_steps {block : Block} {s : Statement} (h : s ∈ block.steps) :
    s.cells ≠ [] :=
  (Statement.mem_ofBlock.mp (List.mem_of_mem_filter h)).2

/-- The steps that are counted are the filled and the hollow ones. -/
theorem countedSteps_eq_filter (block : Block) :
    block.countedSteps = block.steps.filter fun s => s.isFilled || s.isHollow := by
  refine List.filter_congr fun s hs => ?_
  rw [Statement.isHollow_eq (cells_of_mem_steps hs)]
  cases hfilled : s.isFilled with
  | false => rfl
  | true =>
    rw [Statement.isBlank_of_isFilled hfilled]
    rfl

theorem filter_isFilled_countedSteps (block : Block) :
    block.countedSteps.filter Statement.isFilled = block.filledSteps := by
  rw [countedSteps_eq_filter, List.filter_filter, filledSteps]
  exact List.filter_congr fun s _ => by cases s.isFilled <;> rfl

theorem filter_not_isFilled_countedSteps (block : Block) :
    block.countedSteps.filter (!·.isFilled) = block.hollowSteps := by
  rw [countedSteps, List.filter_filter, hollowSteps]
  exact List.filter_congr fun s hs => (Statement.isHollow_eq (cells_of_mem_steps hs)).symm

theorem length_countedSteps_eq (block : Block) :
    block.countedSteps.length = block.filledSteps.length + block.hollowSteps.length := by
  rw [← filter_isFilled_countedSteps, ← filter_not_isFilled_countedSteps,
    ← List.countP_eq_length_filter, ← List.countP_eq_length_filter]
  simpa using List.length_eq_countP_add_countP Statement.isFilled (l := block.countedSteps)

theorem countedSteps_eq_filledSteps_iff (block : Block) :
    block.countedSteps = block.filledSteps ↔ block.hollowSteps = [] := by
  rw [← filter_isFilled_countedSteps, eq_comm, List.filter_eq_self,
    ← filter_not_isFilled_countedSteps, List.filter_eq_nil_iff]
  simp only [Bool.not_eq_true', Bool.not_eq_false]

end Block

/-- There is something at a position that is not negative and lies before the end. -/
theorem Position.get_natCast {α : Type} {items : List α} {position : Nat}
    (h : position < items.length) : get items position = .ok items[position] := by
  have hindex : index? items.length position = some position := by
    unfold index?
    simp only [if_neg (Int.natCast_nonneg position).not_gt]
    rw [if_pos (by omega), Int.toNat_natCast]
  unfold get
  rw [hindex]
  simp only [List.getElem?_eq_getElem h]

/-- A check that uses its limit as a position speaks about what stands there, if the limit is
not negative. -/
theorem limitVerdict_natCast {α : Type} (items : List α) (limit : Nat) (remark : α → Remark) :
    limitVerdict items limit remark = .ok (items[limit]?.toList.map remark) := by
  rw [limitVerdict]
  by_cases hle : (items.length : Int) ≤ limit
  · rw [if_pos hle, List.getElem?_eq_none (by omega)]
    rfl
  · have hlt : limit < items.length := by omega
    rw [if_neg hle, Position.get_natCast hlt, List.getElem?_eq_getElem hlt]
    rfl

/-! ### Lines without bars -/

namespace Row

theorem isBlank_of_isGap {c : Char} (h : isGap c = true) : Text.isBlank c = true := by
  simp only [isGap, Bool.or_eq_true, decide_eq_true_eq] at h
  rcases h with (rfl | rfl) | rfl <;> decide

/-- What separates two cells of a spaced line consists of gap characters. -/
theorem isGap_of_mem_spaceGap {text : Text} {c : Char} (h : c ∈ text.take (spaceGap text)) :
    isGap c = true := by
  have hle : spaceGap text ≤ (text.takeWhile isGap).length := by
    unfold spaceGap
    split
    · exact Nat.zero_le _
    next hgap =>
      rw [hgap]
      split <;> simp
    · exact le_rfl
  have htake : text.takeWhile isGap = text.take (text.takeWhile isGap).length :=
    List.prefix_iff_eq_take.mp (List.takeWhile_prefix isGap)
  have hmem : c ∈ text.takeWhile isGap := by
    rw [htake]
    exact List.take_subset_take_left text hle h
  exact List.mem_takeWhile_imp hmem

/-- If a text does not end with a gap, the last of its cells in the spaced format is not empty.
What is still to be passed over at the beginning must be a gap. -/
theorem last_cutGaps {skip : Nat} {text : Text} (hne : text ≠ [])
    (hlast : ∀ c ∈ text.getLast?, isGap c = false) (hskip : ∀ c ∈ text.take skip, isGap c = true) :
    ∃ front last, Text.cutGaps spaceGap skip text = front ++ [last] ∧ last ≠ [] := by
  induction text generalizing skip with
  | nil => exact absurd rfl hne
  | cons c rest ih =>
    -- behind a gap character there must be more
    have hrest (hc : rest ≠ []) : ∀ d ∈ rest.getLast?, isGap d = false := by
      obtain ⟨d, rest, rfl⟩ := List.exists_cons_of_ne_nil hc
      exact hlast
    have hmore (hc : isGap c = true) : rest ≠ [] := by
      rintro rfl
      exact absurd hc (by simp [hlast c rfl])
    cases skip with
    | succ skip =>
      have hc : isGap c = true := hskip c List.mem_cons_self
      exact ih (hmore hc) (hrest (hmore hc)) fun d hd => hskip d (List.mem_cons_of_mem c hd)
    | zero =>
      rw [Text.cutGaps]
      split
      · by_cases hnil : rest = []
        · exact ⟨[], [c], by simp [hnil, Text.cutGaps], List.cons_ne_nil c []⟩
        · obtain ⟨front, last, hcut, hfull⟩ := @ih 0 hnil (hrest hnil) (by simp)
          rw [hcut]
          cases front with
          | nil => exact ⟨[], c :: last, rfl, List.cons_ne_nil c last⟩
          | cons first front => exact ⟨(c :: first) :: front, last, rfl, hfull⟩
      next n hgap =>
        have hgaps : ∀ d ∈ (c :: rest).take (spaceGap (c :: rest)), isGap d = true :=
          fun d => isGap_of_mem_spaceGap
        rw [hgap] at hgaps
        have hc : isGap c = true := hgaps c List.mem_cons_self
        obtain ⟨front, last, hcut, hfull⟩ := ih (hmore hc) (hrest (hmore hc))
          fun d hd => hgaps d (List.mem_cons_of_mem c hd)
        exact ⟨[] :: front, last, by rw [hcut]; rfl, hfull⟩

/-- A row is blank, or its last cell is not empty. -/
def EndsFull (row : Row) : Prop :=
  row.cells = [[]] ∨ ∃ front last, row.cells = front ++ [last] ∧ last ≠ []

/-- A line that is not in the piped format is blank or ends with a cell that is not empty. -/
theorem endsFull_of_spaced {line : Int} {text : Text} (h : isPiped (clean text) = false) :
    (ofLine line text).EndsFull := by
  rw [EndsFull, ofLine, cut, if_neg (by simp [h])]
  by_cases hnil : clean text = []
  · rw [hnil]
    exact .inl rfl
  · refine .inr (last_cutGaps hnil (fun c hc => ?_) (by simp))
    obtain ⟨_, rfl⟩ := List.mem_getLast?_eq_getLast hc
    rw [← Bool.not_eq_true]
    intro hgap
    exact List.rdropWhile_last_not Text.isBlank _ hnil (isBlank_of_isGap hgap)

/-- What a line leaves is blank or ends with a cell that is not empty if the line does. -/
theorem Leaves.endsFull {row : Row} {marks : List Mark} (h : row.Leaves marks)
    (hrow : row.EndsFull) :
    ∀ mark ∈ marks, ∀ kept, mark.row? = some kept → kept.EndsFull := by
  cases h with
  | nameAndStep hheading hlength =>
    -- the last cell is not the first one, which is taken out
    rcases hrow with hblank | ⟨_ | ⟨first, front⟩, last, hcells, hfull⟩
    · simp [hblank] at hlength
    · simp [hcells] at hlength
    · simp only [List.forall_mem_cons, Mark.row?, Option.some.injEq, forall_eq']
      have hnone : ∀ kept : Row, none = some kept → kept.EndsFull := by
        rintro kept ⟨⟩
      refine ⟨hnone, .inr ⟨[] :: front, last, ?_, hfull⟩, List.forall_mem_nil _⟩
      rw [hcells]
      rfl
  | _ => simp [Mark.row?, hrow]

end Row

/-- If each of its rows is blank or ends with a cell that is not empty, a statement is not
hollow. -/
theorem Stretch.isHollow_of_endsFull {stretch : Stretch}
    (h : ∀ row ∈ stretch.rows, row.EndsFull) : stretch.statement.isHollow = false := by
  rw [← Bool.not_eq_true, Statement.isHollow_iff]
  rintro ⟨hlength, hempty⟩
  have hhead : stretch.head.cells = [[]] := by
    rcases h stretch.head List.mem_cons_self with hblank | ⟨front, last, hcells, hfull⟩
    · exact hblank
    · refine absurd (hempty last (List.mem_append_left _ ?_)) hfull
      simp [hcells]
  have hmore : ∀ row ∈ stretch.more, row.cells.drop 2 = [] := by
    intro row hrow
    obtain ⟨others, hcells⟩ := Row.isContinuation_iff.mp (stretch.continues row hrow)
    rcases h row (List.mem_cons_of_mem _ hrow) with hblank | ⟨front, last, hlast, hfull⟩
    · simp [hcells] at hblank
    · rcases List.eq_nil_or_concat others with rfl | ⟨others, cell, rfl⟩
      · rw [hcells]
        rfl
      · have hcell : cell = last := by
          simpa [List.getLast?_cons] using congrArg List.getLast? (hcells.symm.trans hlast)
        refine absurd (hempty last (List.mem_append_right _ ?_)) hfull
        refine List.mem_flatMap.mpr ⟨row, hrow, ?_⟩
        simp [hcells, hcell]
  have hcells : stretch.statement.cells = [[]] := by
    rw [statement, hhead, List.flatMap_eq_nil_iff.mpr hmore]
    rfl
  simp [hcells] at hlength

namespace Document

theorem endsFull_of_mem_keptRows {document : Document} {lines : List Text}
    (htables : document.tables = tablesOf (rowsFrom 1 lines)) {kept : Row}
    (h : kept ∈ document.keptRows) (hspaced : Row.isPiped kept.raw = false) : kept.EndsFull := by
  obtain ⟨row, hrow, marks, hleaves, mark, hmark, hkept⟩ := leaves_of_mem_keptRows htables h
  obtain ⟨-, hraw⟩ := hleaves.raw_eq mark hmark kept hkept
  obtain ⟨i, text, -, rfl⟩ := mem_rowsFrom hrow
  rw [hraw] at hspaced
  exact hleaves.endsFull (Row.endsFull_of_spaced hspaced) mark hmark kept hkept

/-- A hollow step of a file has a line in the piped format. -/
theorem exists_piped_of_hollow {document : Document} {lines : List Text}
    (htables : document.tables = tablesOf (rowsFrom 1 lines)) {block : Block}
    (hblock : block ∈ document.allBlocks) {s : Statement} (hs : s ∈ block.hollowSteps) :
    ∃ stretch ∈ Stretch.cut block.rows, stretch.statement = s ∧
      ∃ row ∈ stretch.rows, Row.isPiped row.raw = true := by
  obtain ⟨hstep, hhollow⟩ := List.mem_filter.mp hs
  obtain ⟨⟨stretch, hstretch, rfl⟩, -⟩ := Statement.mem_ofBlock.mp (List.mem_of_mem_filter hstep)
  refine ⟨stretch, hstretch, rfl, ?_⟩
  by_contra hnone
  have hfull : ∀ row ∈ stretch.rows, row.EndsFull := by
    intro row hrow
    have hspaced : Row.isPiped row.raw = false := by
      rw [← Bool.not_eq_true]
      exact fun hpiped => hnone ⟨row, hrow, hpiped⟩
    refine endsFull_of_mem_keptRows htables ?_ hspaced
    obtain ⟨table, htable, hblock⟩ := List.mem_flatMap.mp hblock
    refine List.mem_flatMap.mpr ⟨table, htable, List.mem_append_right _ ?_⟩
    exact List.mem_flatMap.mpr ⟨block, hblock, Stretch.mem_of_mem_cut hstretch hrow⟩
  rw [Stretch.isHollow_of_endsFull hfull] at hhollow
  cases hhollow

end Document

/-! ### What is counted in a file -/

/-- **Which steps are counted** in the blocks of a file: those with a cell that is not empty, and
those with several cells that are all empty, which come from lines in the piped format. So the
number that checks compare and print is that of the steps with content exactly if there are no
hollow ones, and a limit points to a step among both. -/
theorem Document.countedSteps_of_decode {bytes : Bytes} {source : Text}
    (h : Utf8.decode bytes = .ok source) (name path : Text) :
    ∃ document, ofBytes name path bytes = .ok document ∧ ∀ block ∈ document.allBlocks,
      let count := block.filledSteps.length + block.hollowSteps.length
      block.countedSteps = block.steps.filter (fun s => s.isFilled || s.isHollow) ∧
      block.countedSteps.length = count ∧
      (block.countedSteps = block.filledSteps ↔ block.hollowSteps = []) ∧
      (∀ s ∈ block.hollowSteps, ∃ stretch ∈ Stretch.cut block.rows, stretch.statement = s ∧
        ∃ row ∈ stretch.rows, Row.isPiped row.raw = true) ∧
      (∀ least, (TestCheck.fewSteps least).apply document.tables block =
        unlessTemplated document.tables (.ok (if (count : Int) < least then
          [{ line := block.line,
             message := "Too few steps (" ++ Text.ofNat count ++ ") in test case" }] else []))) ∧
      (∀ limit : Nat, (TestCheck.manySteps limit).apply document.tables block =
        unlessTemplated document.tables (.ok (block.countedSteps[limit]?.toList.map fun step =>
          { line := step.first,
            message := "Too many steps (" ++ Text.ofNat count ++ ") in test case" }))) ∧
      ∀ least, (KeywordCheck.fewSteps least).apply block =
        .ok (if (count : Int) < least then
          [{ line := block.line,
             message := "Too few steps (" ++ Text.ofNat count ++ ") in keyword" }] else []) := by
  refine ⟨_, ofBytes_of_decode h name path, fun block hblock => ?_⟩
  intro count
  have hcount : block.countedSteps.length = count := block.length_countedSteps_eq
  refine ⟨block.countedSteps_eq_filter, hcount, block.countedSteps_eq_filledSteps_iff,
    fun s hs => exists_piped_of_hollow rfl hblock hs, fun least => ?_, fun limit => ?_,
    fun least => ?_⟩
  · rw [← hcount]
    rfl
  · rw [← hcount, ← limitVerdict_natCast]
    rfl
  · rw [← hcount]
    rfl

/-- A file with a test case of two rows, the second of which has nothing between its bars. -/
def hollowFile : Bytes :=
  [42, 84, 101, 115, 116, 32, 67, 97, 115, 101, 10, 84, 10, 32, 32, 97, 10, 124, 32, 124, 32, 124]

/-- The test case of the file. -/
def hollowBlock : Block where
  kind := .test
  line := 2
  name := "T"
  rows := [⟨3, "  a", [[], "a"]⟩, ⟨4, "| | |", [[], []]⟩]

/-- One step has content, but two are counted. So there are enough of them, and the second one
is too many where one is allowed. -/
theorem Document.countedSteps_of_decode_hollow :
    Utf8.decode hollowFile = .ok "*Test Case\nT\n  a\n| | |" ∧
      ∃ document, ofBytes "a" "/a.robot" hollowFile = .ok document ∧
        document.allBlocks = [hollowBlock] ∧
        hollowBlock.filledSteps = [⟨[[], "a"], 3, 3⟩] ∧
        hollowBlock.hollowSteps = [⟨[[], []], 4, 4⟩] ∧
        hollowBlock.countedSteps ≠ hollowBlock.filledSteps ∧
        (TestCheck.fewSteps 2).apply document.tables hollowBlock = .ok [] ∧
        (TestCheck.manySteps 1).apply document.tables hollowBlock =
          .ok [{ line := 4, message := "Too many steps (2) in test case" }] := by
  have hdecode : Utf8.decode hollowFile = .ok "*Test Case\nT\n  a\n| | |" := by rfl
  have hread : ofBytes "a" "/a.robot" hollowFile =
      .ok ⟨"a", "/a.robot", some "*Test Case\nT\n  a\n| | |",
        [{ kind := .blocks .test, line := 1, name := some "Test Case",
           header := some "*Test Case", blocks := [hollowBlock] }]⟩ := by decide +kernel
  have hhollow : hollowBlock.hollowSteps = [⟨[[], []], 4, 4⟩] := by decide
  obtain ⟨document, hdocument, hblocks⟩ := countedSteps_of_decode hdecode "a" "/a.robot"
  obtain rfl := Except.ok.inj (hdocument.symm.trans hread)
  obtain ⟨-, -, hsame, -, hfew, hmany, -⟩ := hblocks hollowBlock List.mem_cons_self
  refine ⟨hdecode, _, hdocument, rfl, by decide, hhollow, fun hcon => ?_,
    (hfew 2).trans (by decide +kernel), (hmany 1).trans (by decide +kernel)⟩
  rw [hsame, hhollow] at hcon
  cases hcon

end SuiteLint
