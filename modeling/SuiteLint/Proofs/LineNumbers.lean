import Mathlib.Tactic
import SuiteLint.Proofs.Safety
import SuiteLint.Proofs.Trace

/-!
# Where reports point to

A report names a line, and there are two ways in which lines are counted: tables, blocks
and rows are numbered as the file is read line by line, while the checks on the text of a
file cut it at newlines. The second count is never behind the first
(`Text.length_fullLines_le`), so every line that is kept of a file is one of the lines its
text is cut into (`Document.Spans`).

From there it is one look at each check. Nearly all of them point to a line of the file.
The three that ask for documentation point to the line after a heading or a name, which
may be the line after the last one; and the check on the name of a suite points to no line
at all, that is to line 0.
-/

namespace SuiteLint

/-! ### Two ways to count lines -/

theorem length_sourceLines (source : Text) :
    (sourceLines source).length = source.count '\n' + 1 :=
  Text.length_pieces '\n' source

/-- Reading line by line finds no more lines than there are newlines, but for the last. -/
theorem Text.length_fullLines_le (source : Text) :
    (Text.fullLines source).length ≤ (sourceLines source).length := by
  rw [length_sourceLines]
  induction source with
  | nil => exact Nat.zero_le _
  | cons c rest ih =>
    rw [Text.fullLines]
    by_cases hc : c = '\n'
    · rw [if_pos hc, List.length_cons, hc, List.count_cons_self]
      omega
    · rw [if_neg hc, List.count_cons_of_ne hc]
      cases hlines : Text.fullLines rest with
      | nil => simp
      | cons first others =>
        rw [hlines] at ih
        simpa using ih

/-! ### What is kept of a file -/

/-- A number is that of one of so many lines. -/
def IsLine (lines : Nat) (line : Int) : Prop := 1 ≤ line ∧ line ≤ lines

namespace Document

/-- A document has the given text, and everything in it is from a line of this text. -/
structure Spans (document : Document) (source : Text) : Prop where
  /-- It has the text. -/
  text : document.source = some source
  /-- The headings of its tables are from lines of the text. -/
  tables : ∀ table ∈ document.tables, IsLine (sourceLines source).length table.line
  /-- The names of its blocks are from lines of the text. -/
  blocks : ∀ block ∈ document.allBlocks, IsLine (sourceLines source).length block.line
  /-- Its rows are from lines of the text. -/
  rows : ∀ row ∈ document.keptRows, IsLine (sourceLines source).length row.line
  /-- Its test cases are test cases, and its keywords are keywords. -/
  kinds : ∀ kind, ∀ block ∈ document.blocks kind, block.kind = kind

/-- The marks of a file are from its lines. -/
theorem isLine_of_mem_marks {document : Document} {lines : List Text}
    (htables : document.tables = tablesOf (rowsFrom 1 lines)) :
    ∀ mark ∈ document.marks, IsLine lines.length mark.line := by
  intro mark hmark
  have hcells : ∀ row ∈ rowsFrom 1 lines, row.cells ≠ [] := fun _ => cells_of_mem_rowsFrom
  obtain ⟨groups, hleaves, hmarks⟩ := marks_tablesOf hcells (rowsFrom_sorted 1 lines)
  rw [marks, htables, hmarks] at hmark
  obtain ⟨row, hlisted, hline⟩ := Mark.exists_row hleaves mark hmark
  have hrow : row ∈ rowsFrom 1 lines := (List.dropWhile_sublist _).subset hlisted
  have hnumber : row.line ∈ (List.range lines.length).map fun i : Nat => (i : Int) + 1 := by
    rw [← map_line_rowsFrom]
    exact List.mem_map_of_mem hrow
  obtain ⟨i, hi, hrowline⟩ := List.mem_map.mp hnumber
  have hlt := List.mem_range.mp hi
  rw [hline, ← hrowline]
  exact ⟨by omega, by omega⟩

theorem spans_of_lines {document : Document} {source : Text}
    (hsource : document.source = some source)
    (htables : document.tables = tablesOf (rowsFrom 1 (Text.fullLines source))) :
    document.Spans source := by
  have hmarks : ∀ mark ∈ document.marks, IsLine (sourceLines source).length mark.line := by
    intro mark hmark
    obtain ⟨hfirst, hlast⟩ := isLine_of_mem_marks htables mark hmark
    have hle := Text.length_fullLines_le source
    exact ⟨hfirst, by omega⟩
  refine ⟨hsource, fun table htable => ?_, fun block hblock => ?_, fun row hrow => ?_,
    kind_of_mem_blocks htables⟩
  · have hmem : table.line ∈ document.marks.filterMap Mark.heading? := by
      rw [filterMap_heading]
      exact List.mem_map_of_mem htable
    obtain ⟨mark, hmark, hline⟩ := List.mem_filterMap.mp hmem
    cases mark with
    | heading line =>
      obtain rfl : line = table.line := Option.some.inj hline
      exact hmarks _ hmark
    | _ => cases hline
  · have hmem : block.line ∈ document.marks.filterMap Mark.name? := by
      rw [filterMap_name]
      exact List.mem_map_of_mem hblock
    obtain ⟨mark, hmark, hline⟩ := List.mem_filterMap.mp hmem
    cases mark with
    | name line =>
      obtain rfl : line = block.line := Option.some.inj hline
      exact hmarks _ hmark
    | _ => cases hline
  · have hmem : row ∈ document.marks.filterMap Mark.row? := by
      rw [filterMap_row]
      exact hrow
    obtain ⟨mark, hmark, hkept⟩ := List.mem_filterMap.mp hmem
    have hline : mark.line = row.line := by
      cases mark <;> simp_all [Mark.row?, Mark.line]
    rw [← hline]
    exact hmarks mark hmark

theorem spans_of_decode {tree : FileTree} {path : Text} {content : Content} {source : Text}
    (hcontent : tree.content path = .ok content)
    (hsource : Utf8.decode content.bytes = .ok source) :
    (load tree path).1.Spans source := by
  rw [load, read_eq_of_decode hcontent hsource]
  exact spans_of_lines rfl rfl

end Document

/-! ### The lines of blocks -/

theorem Statement.eq_of_mem_unlessEmpty {statement current : Statement}
    (h : statement ∈ current.unlessEmpty) : statement = current := by
  rw [unlessEmpty] at h
  split at h
  · cases h
  · exact List.mem_singleton.mp h

/-- A statement begins on the line of a row. -/
theorem Statement.first_of_mem_assemble {continuation? : Row → Option (List Text)}
    {rows : List Row} {statement : Statement} (h : statement ∈ assemble continuation? rows) :
    ∃ row ∈ rows, statement.first = row.line := by
  -- a statement that goes on over further rows still begins where it began
  have hfrom : ∀ (rows : List Row) (current : Statement),
      statement ∈ assembleFrom continuation? current rows →
      statement.first = current.first ∨ ∃ row ∈ rows, statement.first = row.line := by
    intro rows
    induction rows with
    | nil =>
      intro current hmem
      exact .inl (congrArg first (eq_of_mem_unlessEmpty hmem))
    | cons row rows ih =>
      intro current hmem
      rw [assembleFrom] at hmem
      cases hrow : continuation? row with
      | some more =>
        rw [hrow] at hmem
        rcases ih _ hmem with hfirst | ⟨other, hother, hfirst⟩
        · exact .inl hfirst
        · exact .inr ⟨other, List.mem_cons_of_mem _ hother, hfirst⟩
      | none =>
        rw [hrow] at hmem
        rcases List.mem_append.mp hmem with hmem | hmem
        · exact .inl (congrArg first (eq_of_mem_unlessEmpty hmem))
        · rcases ih _ hmem with hfirst | ⟨other, hother, hfirst⟩
          · exact .inr ⟨row, List.mem_cons_self, hfirst⟩
          · exact .inr ⟨other, List.mem_cons_of_mem _ hother, hfirst⟩
  cases rows with
  | nil => cases h
  | cons row rows =>
    rcases hfrom rows _ h with hfirst | ⟨other, hother, hfirst⟩
    · exact ⟨row, List.mem_cons_self, hfirst⟩
    · exact ⟨other, List.mem_cons_of_mem _ hother, hfirst⟩

namespace Document.Spans

variable {document : Document} {source : Text}

theorem row_of_block (h : document.Spans source) {block : Block}
    (hblock : block ∈ document.allBlocks) {row : Row} (hrow : row ∈ block.rows) :
    IsLine (sourceLines source).length row.line := by
  obtain ⟨table, htable, hblock⟩ := List.mem_flatMap.mp hblock
  refine h.rows row (List.mem_flatMap.mpr ⟨table, htable, ?_⟩)
  exact List.mem_append_right _ (List.mem_flatMap.mpr ⟨block, hblock, hrow⟩)

theorem step (h : document.Spans source) {block : Block} (hblock : block ∈ document.allBlocks)
    {step : Statement} (hstep : step ∈ block.steps) :
    IsLine (sourceLines source).length step.first := by
  obtain ⟨row, hrow, hfirst⟩ :=
    Statement.first_of_mem_assemble (List.mem_of_mem_filter hstep)
  rw [hfirst]
  exact h.row_of_block hblock hrow

end Document.Spans

/-! ### The lines that checks point to -/

/-- Where a check may point to in a text of so many lines. -/
def Check.MayPointTo (lines : Nat) (line : Int) : Check → Prop
  | suite .periodInName => line = 0
  | suite .documentation | test .documentation | keyword .documentation => IsLine (lines + 1) line
  | _ => IsLine lines line

theorem IsLine.succ {lines : Nat} {line : Int} (h : IsLine lines line) :
    IsLine (lines + 1) (line + 1) := by
  obtain ⟨hfirst, hlast⟩ := h
  exact ⟨by omega, by push_cast; omega⟩

/-- What is found at a position of a list is in the list. -/
theorem Position.mem_of_get {α : Type} {items : List α} {position : Int} {item : α}
    (h : get items position = .ok item) : item ∈ items := by
  unfold get at h
  split at h
  · cases h
  · split at h
    · cases h
    next found hfound =>
      obtain rfl : found = item := Except.ok.inj h
      exact List.mem_of_getElem? hfound

/-- A check that uses its limit as a position has something to say about one item only. -/
theorem mem_limitVerdict {α : Type} {items : List α} {limit : Int} {remark : α → Remark}
    {remarks : List Remark} (h : limitVerdict items limit remark = .ok remarks) :
    ∀ said ∈ remarks, ∃ item ∈ items, said = remark item := by
  intro said hsaid
  unfold limitVerdict at h
  split at h
  · obtain rfl := Except.ok.inj h
    cases hsaid
  · cases hget : Position.get items limit with
    | error fault =>
      rw [hget] at h
      cases h
    | ok item =>
      rw [hget] at h
      obtain rfl : [remark item] = remarks := Except.ok.inj h
      exact ⟨item, Position.mem_of_get hget, List.mem_singleton.mp hsaid⟩

/-- What is said unless tests are made from a template is what there is to say, or
nothing. -/
theorem eq_of_unlessTemplated {tables : List Table} {verdict : Verdict} {remarks : List Remark}
    (h : unlessTemplated tables verdict = .ok remarks) : remarks = [] ∨ verdict = .ok remarks := by
  unfold unlessTemplated at h
  cases htemplated : isTemplated tables with
  | error fault =>
    rw [htemplated] at h
    cases h
  | ok found =>
    rw [htemplated] at h
    cases found with
    | true => exact .inl (Except.ok.inj h).symm
    | false => exact .inr h

/-! The checks on the text of a file. -/

theorem line_of_mem_longLines {limit line : Int} {texts : List Text} {remark : Remark}
    (h : remark ∈ longLines limit line texts) :
    line ≤ remark.line ∧ remark.line < line + texts.length := by
  induction texts generalizing line with
  | nil => cases h
  | cons text texts ih =>
    rw [List.length_cons]
    have hlater (hmem : remark ∈ longLines limit (line + 1) texts) :
        line ≤ remark.line ∧ remark.line < line + (texts.length + 1 : Nat) := by
      have := ih hmem
      omega
    rw [longLines] at h
    split at h
    · rcases List.mem_cons.mp h with rfl | hmem
      · exact ⟨le_refl line, by push_cast; omega⟩
      · exact hlater hmem
    · exact hlater h

/-- The blanks at the end of a text have no more newlines than the text. -/
theorem count_blankEnd_le (source : Text) :
    (Text.blankEnd source).count '\n' ≤ source.count '\n' := by
  unfold Text.blankEnd
  rw [List.count_reverse, ← List.count_reverse (l := source)]
  exact (List.takeWhile_sublist _).count_le _

theorem isLine_blankEnd {limit : Int} (hlimit : 0 ≤ limit) (source : Text) :
    ∀ remark ∈ blankEndRemarks limit source, IsLine (sourceLines source).length remark.line := by
  intro remark hremark
  have hlines := length_sourceLines source
  have hcount := count_blankEnd_le source
  unfold blankEndRemarks at hremark
  simp only at hremark
  split at hremark
  · rw [List.mem_singleton.mp hremark]
    constructor <;> dsimp only <;> omega
  · cases hremark

theorem isLine_length {limit : Int} (hlimit : 0 ≤ limit) (source : Text) :
    ∀ remark ∈ lengthRemarks limit source, IsLine (sourceLines source).length remark.line := by
  intro remark hremark
  unfold lengthRemarks at hremark
  simp only at hremark
  split at hremark
  · rw [List.mem_singleton.mp hremark]
    constructor <;> dsimp only <;> omega
  · cases hremark

/-! The check on the names of variables. -/

theorem line_of_mem_variableNames {expected : Bool} {cells : List (Text × Int)} {remark : Remark}
    (h : remark ∈ variableNames expected cells) : ∃ cell ∈ cells, remark.line = cell.2 := by
  induction cells generalizing expected with
  | nil => cases h
  | cons cell cells ih =>
    have hlater {expected : Bool} (hmem : remark ∈ variableNames expected cells) :
        ∃ other ∈ cell :: cells, remark.line = other.2 := by
      obtain ⟨other, hother, hline⟩ := ih hmem
      exact ⟨other, List.mem_cons_of_mem _ hother, hline⟩
    rw [variableNames] at h
    split at h
    · exact hlater h
    · split at h
      · exact hlater h
      · split at h
        · rcases List.mem_cons.mp h with rfl | hmem
          · exact ⟨cell, List.mem_cons_self, rfl⟩
          · exact hlater hmem
        · exact hlater h

theorem line_of_mem_block_variableRemarks {block : Block} {remark : Remark}
    (h : remark ∈ block.variableRemarks) : ∃ row ∈ block.rows, remark.line = row.line := by
  obtain ⟨cell, hcell, hline⟩ := line_of_mem_variableNames h
  obtain ⟨row, hrow, hcell⟩ := List.mem_flatMap.mp hcell
  obtain ⟨text, -, rfl⟩ := List.mem_map.mp hcell
  exact ⟨row, hrow, hline⟩

theorem line_of_mem_row_variableRemarks {row : Row} {remark : Remark}
    (h : remark ∈ row.variableRemarks) : remark.line = row.line := by
  unfold Row.variableRemarks at h
  split at h
  · cases h
  · split at h
    · cases h
    · rw [List.mem_singleton.mp h]

theorem mem_of_mem_repeatedAfter {α : Type} {key : α → Text} {seen : List Text} {items : List α}
    {item : α} (h : item ∈ repeatedAfter key seen items) : item ∈ items := by
  induction items generalizing seen with
  | nil => cases h
  | cons first items ih =>
    rw [repeatedAfter] at h
    split at h
    · rcases List.mem_cons.mp h with rfl | hmem
      · exact List.mem_cons_self
      · exact List.mem_cons_of_mem _ (ih hmem)
    · exact List.mem_cons_of_mem _ (ih h)

namespace Document.Spans

variable {document : Document} {source : Text}

theorem variableRemarks (h : document.Spans source) :
    ∀ remark ∈ document.variableRemarks, IsLine (sourceLines source).length remark.line := by
  intro remark hremark
  have hblock {kind : BlockKind}
      (hmem : remark ∈ (document.blocks kind).flatMap Block.variableRemarks) :
      IsLine (sourceLines source).length remark.line := by
    obtain ⟨block, hblock, hmem⟩ := List.mem_flatMap.mp hmem
    obtain ⟨row, hrow, hline⟩ := line_of_mem_block_variableRemarks hmem
    rw [hline]
    exact h.row_of_block (mem_allBlocks hblock) hrow
  rcases List.mem_append.mp hremark with hremark | hkeyword
  · rcases List.mem_append.mp hremark with hglobal | htest
    · obtain ⟨row, hrow, hremark⟩ := List.mem_flatMap.mp hglobal
      obtain ⟨table, htable, hrow⟩ := List.mem_flatMap.mp (List.mem_of_mem_filter hrow)
      rw [line_of_mem_row_variableRemarks hremark]
      refine h.rows row (List.mem_flatMap.mpr ⟨table, List.mem_of_mem_filter htable, ?_⟩)
      exact List.mem_append_left _ (List.mem_append_left _ hrow)
    · exact hblock htest
  · exact hblock hkeyword

theorem documentationLine (h : document.Spans source) :
    IsLine ((sourceLines source).length + 1) document.documentationLine := by
  unfold Document.documentationLine
  split
  next table hfind => exact (h.tables table (List.mem_of_find?_eq_some hfind)).succ
  · exact ⟨le_refl 1, by push_cast; omega⟩

/-! The checks, scope by scope. -/

theorem suite (h : document.Spans source) {limits : Limits} {check : SuiteCheck}
    (hcheck : Check.suite check ∈ Check.standing limits) {remarks : List Remark}
    (hverdict : check.apply document = .ok remarks) :
    ∀ remark ∈ remarks,
      (Check.suite check).MayPointTo (sourceLines source).length remark.line := by
  intro remark hremark
  have hrepeated {kind : BlockKind} {message : Block → Text}
      (hmem : remark ∈ (repeatedBlocks (document.blocks kind)).map fun block =>
        { line := block.line, message := message block }) :
      IsLine (sourceLines source).length remark.line := by
    obtain ⟨block, hblock, rfl⟩ := List.mem_map.mp hmem
    exact h.blocks block (mem_allBlocks (mem_of_mem_repeatedAfter hblock))
  cases check with
  | periodInName =>
    obtain rfl := Except.ok.inj hverdict
    split at hremark
    · rw [List.mem_singleton.mp hremark]
      exact rfl
    · cases hremark
  | invalidTable =>
    obtain rfl := Except.ok.inj hverdict
    obtain ⟨table, htable, rfl⟩ := List.mem_map.mp hremark
    exact h.tables table (List.mem_of_mem_filter htable)
  | duplicateKeywords =>
    obtain rfl := Except.ok.inj hverdict
    exact hrepeated hremark
  | duplicateTests =>
    obtain rfl := Except.ok.inj hverdict
    exact hrepeated hremark
  | documentation =>
    rw [SuiteCheck.apply] at hverdict
    cases hfound : hasSetting "documentation" document.tables with
    | error fault =>
      rw [hfound] at hverdict
      cases hverdict
    | ok found =>
      rw [hfound] at hverdict
      cases found with
      | true =>
        obtain rfl : [] = remarks := Except.ok.inj hverdict
        cases hremark
      | false =>
        obtain rfl : [_] = remarks := Except.ok.inj hverdict
        rw [List.mem_singleton.mp hremark]
        exact h.documentationLine
  | testCount limit =>
    have hlimit : unlessTemplated document.tables (limitVerdict document.testCases limit _) =
        .ok remarks := hverdict
    rcases eq_of_unlessTemplated hlimit with rfl | hverdict
    · cases hremark
    · obtain ⟨block, hblock, rfl⟩ := mem_limitVerdict hverdict remark hremark
      exact h.blocks block (mem_allBlocks hblock)
  -- the others are not standing checks
  | _ => simp [Check.standing] at hcheck

theorem test (h : document.Spans source) {limits : Limits} {check : TestCheck}
    (hcheck : Check.test check ∈ Check.standing limits) {block : Block}
    (hblock : block ∈ document.allBlocks) {remarks : List Remark}
    (hverdict : check.apply document.tables block = .ok remarks) :
    ∀ remark ∈ remarks,
      (Check.test check).MayPointTo (sourceLines source).length remark.line := by
  intro remark hremark
  have hnamed {name message : Text} (hmem : remark ∈ stepsNamed name message block) :
      IsLine (sourceLines source).length remark.line := by
    obtain ⟨step, hstep, rfl⟩ := List.mem_map.mp hmem
    exact h.step hblock (List.mem_of_mem_filter hstep)
  cases check with
  | periodInName =>
    obtain rfl := Except.ok.inj hverdict
    split at hremark
    · rw [List.mem_singleton.mp hremark]
      exact h.blocks block hblock
    · cases hremark
  | tagWithSpaces =>
    obtain rfl := Except.ok.inj hverdict
    obtain ⟨tag, -, rfl⟩ := List.mem_map.mp hremark
    exact h.blocks block hblock
  | documentation =>
    rcases eq_of_unlessTemplated hverdict with rfl | hverdict
    · cases hremark
    · obtain rfl := Except.ok.inj hverdict
      split at hremark
      · cases hremark
      · rw [List.mem_singleton.mp hremark]
        exact (h.blocks block hblock).succ
  | fewSteps least =>
    rcases eq_of_unlessTemplated hverdict with rfl | hverdict
    · cases hremark
    · obtain rfl := Except.ok.inj hverdict
      split at hremark
      · rw [List.mem_singleton.mp hremark]
        exact h.blocks block hblock
      · cases hremark
  | manySteps limit =>
    have hlimit : unlessTemplated document.tables (limitVerdict block.countedSteps limit _) =
        .ok remarks := hverdict
    rcases eq_of_unlessTemplated hlimit with rfl | hverdict
    · cases hremark
    · obtain ⟨step, hstep, rfl⟩ := mem_limitVerdict hverdict remark hremark
      exact h.step hblock (List.mem_of_mem_filter hstep)
  | forLoop =>
    rcases eq_of_unlessTemplated hverdict with rfl | hverdict
    · cases hremark
    · obtain rfl := Except.ok.inj hverdict
      exact hnamed hremark
  | condition =>
    rcases eq_of_unlessTemplated hverdict with rfl | hverdict
    · cases hremark
    · obtain rfl := Except.ok.inj hverdict
      exact hnamed hremark
  | _ => simp [Check.standing] at hcheck

theorem keyword (h : document.Spans source) {limits : Limits} {check : KeywordCheck}
    (hcheck : Check.keyword check ∈ Check.standing limits) {block : Block}
    (hblock : block ∈ document.allBlocks) {remarks : List Remark}
    (hverdict : check.apply block = .ok remarks) :
    ∀ remark ∈ remarks,
      (Check.keyword check).MayPointTo (sourceLines source).length remark.line := by
  intro remark hremark
  cases check with
  | documentation =>
    obtain rfl := Except.ok.inj hverdict
    split at hremark
    · cases hremark
    · rw [List.mem_singleton.mp hremark]
      exact (h.blocks block hblock).succ
  | fewSteps least =>
    obtain rfl := Except.ok.inj hverdict
    split at hremark
    · rw [List.mem_singleton.mp hremark]
      exact h.blocks block hblock
    · cases hremark
  | _ => simp [Check.standing] at hcheck

theorem general (h : document.Spans source) {limits : Limits} (hblank : 0 ≤ limits.blankEnd)
    (hlength : 0 ≤ limits.fileLength) {check : GeneralCheck}
    (hcheck : Check.general check ∈ Check.standing limits) {remarks : List Remark}
    (hverdict : check.apply document = .ok remarks) :
    ∀ remark ∈ remarks,
      (Check.general check).MayPointTo (sourceLines source).length remark.line := by
  intro remark hremark
  have htext (find : Text → List Remark) : document.inSource find = .ok (find source) := by
    unfold inSource
    rw [h.text]
  cases check with
  | lineLength limit =>
    obtain rfl := Except.ok.inj ((htext _).symm.trans hverdict)
    have := line_of_mem_longLines hremark
    exact ⟨by omega, by omega⟩
  | blankEnd limit =>
    obtain rfl : limit = limits.blankEnd := by simpa [Check.standing] using hcheck
    obtain rfl := Except.ok.inj ((htext _).symm.trans hverdict)
    exact isLine_blankEnd hblank source remark hremark
  | fileLength limit =>
    obtain rfl : limit = limits.fileLength := by simpa [Check.standing] using hcheck
    obtain rfl := Except.ok.inj ((htext _).symm.trans hverdict)
    exact isLine_length hlength source remark hremark
  | variableCase =>
    obtain rfl := Except.ok.inj hverdict
    exact h.variableRemarks remark hremark
  | _ => simp [Check.standing] at hcheck

/-- **Every report points to where its check may point to.** -/
theorem report (h : document.Spans source) {limits : Limits} (hblank : 0 ≤ limits.blankEnd)
    (hlength : 0 ≤ limits.fileLength) {severity : Text → Severity} {report : Report}
    (hreport : report ∈ (Registry.tuned limits severity).reports document) :
    ∃ check ∈ Check.standing limits, report.rule = check.name ∧
      check.MayPointTo (sourceLines source).length report.line := by
  obtain ⟨rule, hrule, round, hround, hscope, remarks, hverdict, remark, hremark, rfl⟩ :=
    Registry.verdict_of_mem_reports hreport
  obtain ⟨check, hcheck, rfl⟩ := List.mem_map.mp hrule
  refine ⟨check, hcheck, rfl, ?_⟩
  change check.MayPointTo (sourceLines source).length remark.line
  change check.scope = round.1 at hscope
  change check.on round.2 = .ok remarks at hverdict
  -- the scope of the check is that of the round, so it is applied to what it was made for
  rcases document.cases_of_mem_rounds hround with ⟨hother, hdocument⟩ | ⟨kind, block, hblock, rfl⟩
  · rw [hdocument] at hverdict
    cases check with
    | suite check => exact h.suite hcheck hverdict remark hremark
    | general check => exact h.general hblank hlength hcheck hverdict remark hremark
    | resource check => simp [Check.standing] at hcheck
    | test check => exact absurd hscope.symm hother.1
    | keyword check => exact absurd hscope.symm hother.2
  · have hmem := mem_allBlocks hblock
    cases kind with
    | test =>
      cases check with
      | test check =>
        rw [Check.on, Check.onBlock, h.kinds .test block hblock] at hverdict
        exact h.test hcheck hmem hverdict remark hremark
      | _ => cases hscope
    | keyword =>
      cases check with
      | keyword check => exact h.keyword hcheck hmem hverdict remark hremark
      | _ => cases hscope

end Document.Spans

/-! ### The reports of a file -/

/-- The only check that points to no line is known by its name. -/
theorem Check.eq_periodInName {limits : Limits} {check : Check}
    (hcheck : check ∈ Check.standing limits) (hname : check.name = "PeriodInSuiteName") :
    check = .suite .periodInName := by
  let named (other : Check) : Bool := other.name = "PeriodInSuiteName"
  have honly : (Check.standing limits).filter named = [.suite .periodInName] := rfl
  have hmem : check ∈ (Check.standing limits).filter named :=
    List.mem_filter.mpr ⟨hcheck, decide_eq_true hname⟩
  rw [honly] at hmem
  exact List.mem_singleton.mp hmem

/-- A report points into a text of so many lines, or next to it. -/
structure Report.PointsInto (lines : Nat) (report : Report) : Prop where
  /-- One on the name of a suite points to line 0. -/
  suiteName : report.rule = "PeriodInSuiteName" → report.line = 0
  /-- Any other points to a line of the text, or to the one after it. -/
  inside : report.rule ≠ "PeriodInSuiteName" → 1 ≤ report.line ∧ report.line ≤ lines + 1
  /-- Only those on missing documentation point to the one after it. -/
  after : report.line = lines + 1 →
    report.rule ∈ [("RequireSuiteDocumentation" : Text), "RequireTestDocumentation",
      "RequireKeywordDocumentation"]

theorem Report.pointsInto_of_check {lines : Nat} {report : Report} {limits : Limits}
    {check : Check} (hcheck : check ∈ Check.standing limits) (hname : report.rule = check.name)
    (h : check.MayPointTo lines report.line) : report.PointsInto lines := by
  have hother (hne : check ≠ .suite .periodInName) : report.rule ≠ "PeriodInSuiteName" :=
    fun hcon => hne (Check.eq_periodInName hcheck (hname.symm.trans hcon))
  unfold Check.MayPointTo at h
  split at h
  · refine ⟨fun _ => h, fun hne => absurd hname hne, fun hline => ?_⟩
    rw [h] at hline
    omega
  · refine ⟨fun hcon => absurd hcon (hother (by simp)), fun _ => h, fun _ => ?_⟩
    rw [hname]
    exact List.mem_cons_self
  · refine ⟨fun hcon => absurd hcon (hother (by simp)), fun _ => h, fun _ => ?_⟩
    rw [hname]
    exact List.mem_cons_of_mem _ List.mem_cons_self
  · refine ⟨fun hcon => absurd hcon (hother (by simp)), fun _ => h, fun _ => ?_⟩
    rw [hname]
    exact List.mem_cons_of_mem _ (List.mem_cons_of_mem _ List.mem_cons_self)
  next hne _ _ _ =>
    obtain ⟨hfirst, hlast⟩ := h
    refine ⟨fun hcon => absurd hcon (hother hne), fun _ => ⟨hfirst, by omega⟩, fun hline => ?_⟩
    omega

namespace Session

open SuiteLint.Action

/-- **Every report points into the file that it is about**, for a file that can be decoded
and the standing rules at any severities. Of the limits only two have to be reasonable,
since these become line numbers: that on blank lines at the end and that on the number of
lines. -/
theorem lintFile_pointsInto {tree : FileTree} {path : Text} {content : Content} {source : Text}
    (hcontent : tree.content path = .ok content)
    (hsource : Utf8.decode content.bytes = .ok source) {limits : Limits}
    (hblank : 0 ≤ limits.blankEnd) (hlength : 0 ≤ limits.fileLength)
    {severity : Text → Severity} (session : Session)
    (hrules : session.rules = Registry.tuned limits severity) :
    lintFile tree path session = forEach Event.perform (eventsOf tree session path) session ∧
      ∀ report ∈ Event.reports (eventsOf tree session path),
        report.PointsInto (sourceLines source).length := by
  refine ⟨lintFile_eq_events tree path session, fun report hreport => ?_⟩
  unfold eventsOf at hreport
  split at hreport
  · have hcoherent : session.rules.Coherent := hrules ▸ Registry.coherent_tuned limits severity
    rw [reports_fileSteps hcoherent, reportsIn, hrules] at hreport
    have hspans := Document.spans_of_decode hcontent hsource
    obtain ⟨check, hcheck, hname, hpoint⟩ := hspans.report hblank hlength hreport
    exact Report.pointsInto_of_check hcheck hname hpoint
  · cases hreport

/-- In a file of two lines, of which the second is the name of a test case, documentation
is missed on the third. -/
theorem lintFile_pointsInto_after_last :
    (sourceLines "*Test case\nT").length = 2 ∧
      ∃ report ∈ Event.reports (eventsOf smallTree {} "a.robot"),
        report.line = 3 ∧ report.PointsInto 2 := by
  have hcontent : smallTree.content "a.robot" =
      .ok { bytes := [42, 84, 101, 115, 116, 32, 99, 97, 115, 101, 10, 84] } := by rfl
  have hsource : Utf8.decode [42, 84, 101, 115, 116, 32, 99, 97, 115, 101, 10, 84] =
      .ok "*Test case\nT" := by rfl
  have hlast : ∃ report ∈ Event.reports (eventsOf smallTree {} "a.robot"), report.line = 3 := by
    decide +kernel
  obtain ⟨report, hreport, hline⟩ := hlast
  have hpoints := (lintFile_pointsInto hcontent hsource (by decide) (by decide) {}
    Registry.standing_eq_tuned).2 report hreport
  exact ⟨by decide, report, hreport, hline, hpoints⟩

end Session

end SuiteLint
