import Mathlib.Tactic
import SuiteLint.Check.General
import SuiteLint.Proofs.Placement

/-!
# The two readings of a file

A file is read as a whole for its text and line by line for its tables, and both count
lines. The checks on the text number the pieces between newlines. Everything else goes by
the lines that are read one by one, each with the newline that ends it.

The two agree. The lines that are read are the pieces, but for an empty one at the end, which
is no line to the second reading (`Text.fullLines_eq`). A newline at the end of a line is
blank, and blanks at the end are not kept (`Row.clean_append`), so it does not matter
whether the rows of a file are made of lines or of pieces (`Document.rowsFrom_fullLines`).
Hence what is kept of a file under some number is the piece of that number.

There is one file in which the empty piece at the end is a line. It consists of a byte order
mark, which is dropped from the first line only after the bytes were cut into lines. The row
that it makes has its piece like any other (`Document.load_whole_or_nothing`).

Nor is a file ever read in part. If it can be decoded as a whole, so can all its lines. If it
cannot, there is a complaint, and nothing else.
-/

namespace SuiteLint

namespace Text

/-! ### Lines and pieces -/

/-- Lines with an ending after each of them but the last. -/
def endEach (ending : Text) : List Text → List Text
  | [] => []
  | [last] => [last]
  | line :: lines => (line ++ ending) :: endEach ending lines

/-- Lines without the last one if it is empty. -/
def withoutEmptyEnd : List Text → List Text
  | [] => []
  | [last] => if last = [] then [] else [last]
  | line :: lines => line :: withoutEmptyEnd lines

theorem endEach_cons (ending line : Text) {lines : List Text} (h : lines ≠ []) :
    endEach ending (line :: lines) = (line ++ ending) :: endEach ending lines := by
  obtain ⟨next, lines, rfl⟩ := List.exists_cons_of_ne_nil h
  rfl

theorem withoutEmptyEnd_cons (line : Text) {lines : List Text} (h : lines ≠ []) :
    withoutEmptyEnd (line :: lines) = line :: withoutEmptyEnd lines := by
  obtain ⟨next, lines, rfl⟩ := List.exists_cons_of_ne_nil h
  rfl

theorem endEach_ne_nil (ending : Text) {lines : List Text} (h : lines ≠ []) :
    endEach ending lines ≠ [] := by
  rcases lines with _ | ⟨line, _ | ⟨next, lines⟩⟩
  · exact absurd rfl h
  · simp [endEach]
  · simp [endEach]

theorem withoutEmptyEnd_isPrefix (lines : List Text) : withoutEmptyEnd lines <+: lines := by
  induction lines using withoutEmptyEnd.induct with
  | case1 => exact List.prefix_rfl
  | case2 => simp [withoutEmptyEnd]
  | case3 last hlast => simp [withoutEmptyEnd, hlast]
  | case4 line lines hne ih =>
    rw [withoutEmptyEnd_cons line hne]
    exact (List.prefix_cons_inj line).mpr ih

end Text

theorem sourceLines_ne_nil (source : Text) : sourceLines source ≠ [] := List.splitOn_ne_nil _ _

theorem sourceLines_newline (rest : Text) :
    sourceLines ('\n' :: rest) = [] :: sourceLines rest := by
  rw [sourceLines, Text.pieces, List.splitOn_cons_eq_if_modifyHead]
  rfl

theorem sourceLines_cons {c : Char} (h : c ≠ '\n') (rest : Text) :
    sourceLines (c :: rest) = (sourceLines rest).modifyHead (c :: ·) := by
  rw [sourceLines, Text.pieces, List.splitOn_cons_eq_if_modifyHead, if_neg (by simpa using h)]
  rfl

/-- **The lines that are read one by one are the pieces between newlines**, each with its
newline, and without the last one if it is empty. -/
theorem Text.fullLines_eq (source : Text) :
    fullLines source = withoutEmptyEnd (endEach "\n" (sourceLines source)) := by
  induction source with
  | nil => rfl
  | cons c rest ih =>
    obtain ⟨piece, pieces, hpieces⟩ := List.exists_cons_of_ne_nil (sourceLines_ne_nil rest)
    rw [fullLines, ih]
    by_cases hc : c = '\n'
    · have hne := endEach_ne_nil "\n" (sourceLines_ne_nil rest)
      rw [if_pos hc, hc, sourceLines_newline, endEach_cons _ _ (sourceLines_ne_nil rest),
        withoutEmptyEnd_cons _ hne]
      rfl
    · rw [if_neg hc, sourceLines_cons hc, hpieces, List.modifyHead_cons]
      -- the character belongs to the first piece, which is also the last one or is not
      rcases pieces with _ | ⟨next, pieces⟩
      · by_cases hpiece : piece = [] <;> simp [endEach, withoutEmptyEnd, hpiece]
      · have hne := endEach_ne_nil "\n" (List.cons_ne_nil next pieces)
        rw [endEach_cons _ _ (List.cons_ne_nil next pieces),
          endEach_cons _ _ (List.cons_ne_nil next pieces), withoutEmptyEnd_cons _ hne,
          withoutEmptyEnd_cons _ hne]
        rfl

/-! ### What is kept of a line -/

namespace Row

/-- Blanks at the end of a line are not kept. -/
theorem clean_append (text : Text) {ending : Text} (h : ∀ c ∈ ending, Text.isBlank c = true) :
    clean (text ++ ending) = clean text := by
  have hblank : ∀ c ∈ (Text.replaceChar Text.noBreakSpace ' ' ending).reverse,
      Text.isBlank c = true := by
    intro c hc
    obtain ⟨old, hold, rfl⟩ := List.mem_map.mp (List.mem_reverse.mp hc)
    split
    · rfl
    · exact h old hold
  have happend : Text.replaceChar Text.noBreakSpace ' ' (text ++ ending) =
      Text.replaceChar Text.noBreakSpace ' ' text ++
        Text.replaceChar Text.noBreakSpace ' ' ending := List.map_append
  rw [clean, clean, happend, Text.stripRight, Text.dropEndWhile, List.reverse_append,
    List.dropWhile_append_of_pos hblank]
  rfl

/-- So neither is an ending that is blank, whatever lines have it. -/
theorem map_clean_endEach {ending : Text} (h : ∀ c ∈ ending, Text.isBlank c = true)
    (lines : List Text) :
    (Text.withoutEmptyEnd (Text.endEach ending lines)).map clean =
      (Text.withoutEmptyEnd lines).map clean := by
  induction lines using Text.endEach.induct with
  | case1 => rfl
  | case2 last => rfl
  | case3 line lines hne ih =>
    rw [Text.endEach_cons ending line hne, Text.withoutEmptyEnd_cons _ (Text.endEach_ne_nil _ hne),
      Text.withoutEmptyEnd_cons _ hne, List.map_cons, List.map_cons, ih, clean_append line h]

end Row

namespace Document

/-- Rows are made of what is kept of lines. -/
theorem rowsFrom_congr {texts texts' : List Text} (h : texts.map Row.clean = texts'.map Row.clean)
    (first : Int) : rowsFrom first texts = rowsFrom first texts' := by
  induction texts generalizing texts' first with
  | nil =>
    obtain rfl : texts' = [] := List.map_eq_nil_iff.mp h.symm
    rfl
  | cons text texts ih =>
    obtain ⟨text', texts', rfl, htext, htexts⟩ := List.map_eq_cons_iff.mp h.symm
    rw [rowsFrom, rowsFrom, ih htexts.symm, Row.ofLine, Row.ofLine, htext]

/-- The rows of the lines of a file are those of the pieces of its text. -/
theorem rowsFrom_fullLines (first : Int) (source : Text) :
    rowsFrom first (Text.fullLines source) =
      rowsFrom first (Text.withoutEmptyEnd (sourceLines source)) := by
  have hblank : ∀ c ∈ ['\n'], Text.isBlank c = true := List.forall_mem_singleton.mpr rfl
  refine rowsFrom_congr ?_ first
  rw [Text.fullLines_eq]
  exact Row.map_clean_endEach hblank (sourceLines source)

theorem mem_rowsFrom {row : Row} {first : Int} {texts : List Text}
    (h : row ∈ rowsFrom first texts) :
    ∃ (i : Nat) (text : Text), texts[i]? = some text ∧ row = Row.ofLine (first + i) text := by
  induction texts generalizing first with
  | nil => cases h
  | cons text texts ih =>
    rcases List.mem_cons.mp h with rfl | h
    · exact ⟨0, text, rfl, by simp⟩
    · obtain ⟨i, other, hother, rfl⟩ := ih h
      refine ⟨i + 1, other, hother, ?_⟩
      rw [Nat.cast_succ, Int.add_assoc, Int.add_comm 1]

end Document

/-! ### What is kept under a number -/

/-- The text is what is kept of the piece of the given number, where pieces are numbered from
1 on: with spaces for no-break spaces, and without the blanks at its end. -/
def KeptOf (source : Text) (line : Int) (text : Text) : Prop :=
  ∃ (i : Nat) (piece : Text), line = i + 1 ∧ (sourceLines source)[i]? = some piece ∧
    text = Text.stripRight (Text.replaceChar Text.noBreakSpace ' ' piece)

/-- A line leaves itself, if perhaps with other cells. -/
theorem Row.Leaves.raw_eq {row : Row} {marks : List Mark} (h : row.Leaves marks) :
    ∀ mark ∈ marks, ∀ kept, mark.row? = some kept → kept.line = row.line ∧ kept.raw = row.raw := by
  cases h <;> simp [Mark.row?]

theorem Table.append_line (table : Table) (row : Row) : (table.append row).line = table.line := by
  unfold append
  repeat' split
  all_goals rfl

theorem Table.append_header (table : Table) (row : Row) :
    (table.append row).header = table.header := by
  unfold append
  repeat' split
  all_goals rfl

namespace Document

theorem keptOf_of_mem_fullLines {source : Text} {row : Row}
    (h : row ∈ rowsFrom 1 (Text.fullLines source)) : KeptOf source row.line row.raw := by
  rw [rowsFrom_fullLines] at h
  obtain ⟨i, piece, hpiece, rfl⟩ := mem_rowsFrom h
  obtain ⟨rest, hrest⟩ := Text.withoutEmptyEnd_isPrefix (sourceLines source)
  refine ⟨i, piece, Int.add_comm 1 i, ?_, rfl⟩
  rw [← hrest, List.getElem?_append_left (List.getElem?_eq_some_iff.mp hpiece).1, hpiece]

/-- Every row that is made of a line has the piece of its number. -/
theorem keptOf_of_decode {bytes : Bytes} {source : Text} {lines : List Text}
    (hsource : Utf8.decode bytes = .ok source) (hlines : Utf8.decodeLines bytes = .ok lines)
    {row : Row} (h : row ∈ rowsFrom 1 lines) : KeptOf source row.line row.raw := by
  obtain rfl := Except.ok.inj ((Utf8.decodeLines_of_decode hsource).symm.trans hlines)
  split at h
  next hmark =>
    -- a lone mark has the empty text, and that has one piece
    rw [hmark] at hsource
    obtain rfl : [] = source := Except.ok.inj hsource
    rw [List.mem_singleton.mp h]
    exact ⟨0, [], rfl, rfl, rfl⟩
  next => exact keptOf_of_mem_fullLines h

/-- Each table has the heading that it was begun with. -/
theorem header_of_mem_tablesFrom {rows : List Row} {current table : Table}
    (h : table ∈ tablesFrom current rows) :
    (table.line = current.line ∧ table.header = current.header) ∨
      ∃ row ∈ rows, table.line = row.line ∧ table.header = some row.raw := by
  induction rows generalizing current with
  | nil =>
    rw [List.mem_singleton.mp h]
    exact .inl ⟨rfl, rfl⟩
  | cons row rows ih =>
    rw [tablesFrom] at h
    rcases hname : headingName? row with _ | name
    · rw [hname] at h
      rcases ih h with hcurrent | ⟨other, hother, hheader⟩
      · rw [Table.append_line, Table.append_header] at hcurrent
        exact .inl hcurrent
      · exact .inr ⟨other, List.mem_cons_of_mem row hother, hheader⟩
    · rw [hname] at h
      rcases List.mem_cons.mp h with rfl | h
      · exact .inl ⟨rfl, rfl⟩
      · rcases ih h with hstarted | ⟨other, hother, hheader⟩
        · exact .inr ⟨row, List.mem_cons_self, hstarted⟩
        · exact .inr ⟨other, List.mem_cons_of_mem row hother, hheader⟩

theorem header_of_mem_tablesOf {rows : List Row} {table : Table} (h : table ∈ tablesOf rows) :
    ∃ row ∈ rows, table.line = row.line ∧ table.header = some row.raw := by
  rcases tablesOf_eq rows with ⟨-, htables⟩ | ⟨row, name, after, hlisted, -, htables⟩
  · rw [htables] at h
    cases h
  · have hsub : (row :: after).Sublist rows := hlisted ▸ List.dropWhile_sublist _
    rw [htables] at h
    rcases header_of_mem_tablesFrom h with hstarted | ⟨other, hother, hheader⟩
    · exact ⟨row, hsub.mem List.mem_cons_self, hstarted⟩
    · exact ⟨other, hsub.mem (List.mem_cons_of_mem row hother), hheader⟩

/-- Every row that is kept of a file is one of its lines, if perhaps with other cells. -/
theorem row_of_mem_keptRows {document : Document} {lines : List Text}
    (htables : document.tables = tablesOf (rowsFrom 1 lines)) {kept : Row}
    (h : kept ∈ document.keptRows) :
    ∃ row ∈ rowsFrom 1 lines, kept.line = row.line ∧ kept.raw = row.raw := by
  obtain ⟨row, hrow, marks, hleaves, mark, hmark, hkept⟩ := leaves_of_mem_keptRows htables h
  exact ⟨row, hrow, hleaves.raw_eq mark hmark kept hkept⟩

/-- A document and the lines it was made of agree with the text that the bytes of the file
encode. -/
structure AgreesWith (document : Document) (bytes : Bytes) (lines : List Text) (source : Text) :
    Prop where
  /-- The document has the text. -/
  text : document.source = some source
  /-- The lines are the pieces of the text with their newlines, but for an empty one at the
  end, unless the file consists of a byte order mark. -/
  pieces : bytes ≠ Utf8.mark →
    lines = Text.withoutEmptyEnd (Text.endEach "\n" (sourceLines source))
  /-- In the latter case the text is empty, and its one piece is the one line. -/
  loneMark : bytes = Utf8.mark → source = [] ∧ lines = [[]]
  /-- The tables are made of rows, one for each line. -/
  tables : document.tables = tablesOf (rowsFrom 1 lines)
  /-- Each row that is made has the piece of its number. -/
  made : ∀ row ∈ rowsFrom 1 lines, KeptOf source row.line row.raw
  /-- So has each row that is kept in a table. -/
  kept : ∀ row ∈ document.keptRows, KeptOf source row.line row.raw
  /-- So has the heading of each table. -/
  headings : ∀ table ∈ document.tables, ∃ header, table.header = some header ∧
    KeptOf source table.line header

theorem agreesWith_of_decode {document : Document} {bytes : Bytes} {source : Text}
    {lines : List Text} (hsource : Utf8.decode bytes = .ok source)
    (hlines : Utf8.decodeLines bytes = .ok lines) (htext : document.source = some source)
    (htables : document.tables = tablesOf (rowsFrom 1 lines)) :
    document.AgreesWith bytes lines source := by
  have hkept {row : Row} (hrow : row ∈ rowsFrom 1 lines) : KeptOf source row.line row.raw :=
    keptOf_of_decode hsource hlines hrow
  have hread := Except.ok.inj ((Utf8.decodeLines_of_decode hsource).symm.trans hlines)
  refine ⟨htext, fun hmark => ?_, ?_, htables, fun row hrow => hkept hrow,
    fun row hrow => ?_, fun table htable => ?_⟩
  · rw [← hread, if_neg hmark, Text.fullLines_eq]
  · rintro rfl
    exact ⟨(Except.ok.inj hsource).symm, hread.symm⟩
  · obtain ⟨made, hmade, hline, hraw⟩ := row_of_mem_keptRows htables hrow
    rw [hline, hraw]
    exact hkept hmade
  · rw [htables] at htable
    obtain ⟨row, hrow, hline, hheader⟩ := header_of_mem_tablesOf htable
    refine ⟨row.raw, hheader, ?_⟩
    rw [hline]
    exact hkept hrow

/-! ### Loading -/

/-- Nothing is known of a document but where it should be. It counts as a resource. -/
structure IsUnread (document : Document) : Prop where
  /-- It has no text. -/
  text : document.source = none
  /-- It has no tables. -/
  tables : document.tables = []
  /-- It is of no kind. -/
  kind : document.kind? = none
  /-- It is not a suite. -/
  label : document.label = "ResourceFile"
  /-- It has no test cases. -/
  testCases : document.testCases = []
  /-- It has no keywords. -/
  keywords : document.keywords = []
  /-- It has no variables. -/
  globals : document.globals = []

theorem isUnread_empty (tree : FileTree) (path : Text) : (empty tree path).IsUnread :=
  ⟨rfl, rfl, rfl, rfl, rfl, rfl, rfl⟩

end Document

/-- What is wrong with bytes is said on one line. -/
theorem Utf8.Malformed.newline_not_mem_message (malformed : Malformed) :
    '\n' ∉ malformed.message := by
  have hnumber (n : Nat) : '\n' ∉ Text.ofNat n := fun hmem =>
    absurd (Nat.isDigit_of_mem_toDigits (by decide) (by decide) hmem) (by decide)
  have hbyte : ∀ byte : Fin 256, '\n' ∉ Text.hex 2 byte := by decide +kernel
  have hplace := hbyte ⟨malformed.byte.toNat, malformed.byte.toNat_lt⟩
  have hreason : '\n' ∉ malformed.reason.message := by
    cases malformed.reason <;> decide
  unfold message
  split
  · simp [hplace, hnumber, hreason]
  · simp [hnumber, hreason]

namespace Document

/-- **A file is read whole or not at all.** If its bytes can be decoded, nothing is complained
about, and what is kept of each line is the piece of the text of the same number. If they
cannot, nothing is kept of the file, and there is a complaint with one newline more than the
path has: one line, if the path has none. -/
theorem load_whole_or_nothing {tree : FileTree} {path : Text} {content : Content}
    (hcontent : tree.content path = .ok content) :
    (∀ source, Utf8.decode content.bytes = .ok source →
      ∃ lines document, Utf8.decodeLines content.bytes = .ok lines ∧
        read tree path = .ok document ∧ load tree path = (document, []) ∧
        document.AgreesWith content.bytes lines source) ∧
    ∀ malformed, Utf8.decode content.bytes = .error malformed →
      ∃ document complaint, load tree path = (document, complaint) ∧
        complaint = Text.line
          ("there was a problem reading '" ++ path ++ "': " ++ malformed.message) ∧
        complaint.count '\n' = path.count '\n' + 1 ∧ document.IsUnread := by
  constructor
  · intro source hsource
    obtain ⟨lines, hlines⟩ : ∃ lines, Utf8.decodeLines content.bytes = .ok lines :=
      ⟨_, Utf8.decodeLines_of_decode hsource⟩
    obtain ⟨document, hread, htext, htables⟩ : ∃ document, read tree path = .ok document ∧
        document.source = some source ∧ document.tables = tablesOf (rowsFrom 1 lines) := by
      rw [read, hcontent]
      simp only [ofBytes_of_lines hsource hlines]
      exact ⟨_, rfl, rfl, rfl⟩
    refine ⟨lines, document, hlines, hread, ?_, agreesWith_of_decode hsource hlines htext htables⟩
    rw [load, hread]
  · intro malformed hbytes
    refine ⟨_, _, load_of_malformed hcontent hbytes, rfl, ?_, isUnread_empty tree path⟩
    have hreason : malformed.message.count '\n' = 0 :=
      List.count_eq_zero_of_not_mem malformed.newline_not_mem_message
    have hcomplaint : complaint path (.malformed malformed) =
        "there was a problem reading '" ++ path ++ "': " ++ malformed.message ++ "\n" := rfl
    have hfront : ("there was a problem reading '" : Text).count '\n' = 0 := by decide +kernel
    have hback : ("': " : Text).count '\n' = 0 := by decide +kernel
    have hend : ("\n" : Text).count '\n' = 1 := by decide +kernel
    rw [hcomplaint, List.count_append, List.count_append, List.count_append, List.count_append,
      hreason, hfront, hback, hend, Nat.zero_add, Nat.add_zero]

/-- A folder with two files. The first begins with a byte order mark and has no-break spaces
between and after its cells, the second breaks off inside a character. -/
def twoFiles : FileTree where
  entries := [
    .file "a.robot" { bytes := [239, 187, 191, 42, 83, 101, 116, 116, 105, 110, 103, 115, 10, 65,
      194, 160, 194, 160, 66, 194, 160, 13] },
    .file "b.robot" { bytes := [42, 83, 10, 195] }]
  workingFolder := []

/-- The first file is read with its two lines, and nothing is kept of the second. -/
theorem load_whole_or_nothing_twoFiles :
    (∃ bytes lines document, load twoFiles "a.robot" = (document, []) ∧ lines.length = 2 ∧
      document.AgreesWith bytes lines "*Settings\nA\u00a0\u00a0B\u00a0\r" ∧
      document.keptRows = [⟨2, "A  B", ["A", "B"]⟩]) ∧
    ∃ document complaint, load twoFiles "b.robot" = (document, complaint) ∧
      complaint.count '\n' = 1 ∧ document.IsUnread := by
  let bytes : Bytes := [239, 187, 191, 42, 83, 101, 116, 116, 105, 110, 103, 115, 10, 65, 194, 160,
    194, 160, 66, 194, 160, 13]
  have hcontent : twoFiles.content "a.robot" = .ok { bytes } := by rfl
  have hcontent' : twoFiles.content "b.robot" = .ok { bytes := [42, 83, 10, 195] } := by rfl
  have hsource : Utf8.decode bytes = .ok "*Settings\nA\u00a0\u00a0B\u00a0\r" := by rfl
  have hbytes : Utf8.decode [42, 83, 10, 195] = .error ⟨3, 195, 0, .unexpectedEnd⟩ := by rfl
  constructor
  · obtain ⟨lines, document, -, -, hload, hagrees⟩ :=
      (load_whole_or_nothing hcontent).1 _ hsource
    have hlines : lines.length = 2 := by
      rw [hagrees.pieces (by decide)]
      decide +kernel
    have hkept : (load twoFiles "a.robot").1.keptRows = [⟨2, "A  B", ["A", "B"]⟩] := by
      decide +kernel
    rw [hload] at hkept
    exact ⟨bytes, lines, document, hload, hlines, hagrees, hkept⟩
  · obtain ⟨document, complaint, hload, -, hcount, hunread⟩ :=
      (load_whole_or_nothing hcontent').2 _ hbytes
    exact ⟨document, complaint, hload, hcount, hunread⟩

/-- A folder with a file that consists of a byte order mark, and one with a newline in its name
whose only byte encodes nothing. -/
def oddFiles : FileTree where
  entries := [.file "mark.robot" { bytes := Utf8.mark }, .file "a\nb.robot" { bytes := [255] }]
  workingFolder := []

/-- The lines of a file need not be the pieces of its text without an empty one at the end, and a
complaint need not be one line. The first file has an empty text, of which nothing would be left,
but it is read with one line. The complaint about the second file has two lines. -/
theorem load_lone_mark :
    oddFiles.content "mark.robot" = .ok { bytes := Utf8.mark } ∧
    Utf8.decode Utf8.mark = .ok [] ∧ Utf8.decodeLines Utf8.mark = .ok [[]] ∧
    Text.withoutEmptyEnd (Text.endEach "\n" (sourceLines [])) = [] ∧
    (load oddFiles "a\nb.robot").1.IsUnread ∧
    (load oddFiles "a\nb.robot").2.count '\n' = 2 := by
  have hcontent : oddFiles.content "a\nb.robot" = .ok { bytes := [255] } := by rfl
  have hbytes : Utf8.decode [255] = .error ⟨0, 255, 0, .invalidStart⟩ := by rfl
  have hload := load_of_malformed hcontent hbytes
  refine ⟨rfl, rfl, rfl, rfl, ?_, ?_⟩
  · rw [hload]
    exact isUnread_empty oddFiles _
  · rw [hload]
    decide +kernel

end Document

end SuiteLint
