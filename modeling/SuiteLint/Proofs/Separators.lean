import Mathlib.Tactic
import SuiteLint.Proofs.Decoding
import SuiteLint.Session.Lint

/-!
# Separators between cells

A line can be cut into cells in several ways: by bars, by gaps, by tabs. Files whose lines
have the same cells are the same to all rules but three, however the cells are set apart
(`Document.read_same_cells`). They have the same tables, up to the lines themselves as they
stand in the file, which are kept in rows and in the headings of tables.

To see this, the lines are taken out of a document, together with its text (`bare`). How a
document is put together does not depend on them, so files with the same cells become the same
bare document. And every rule that does not look at the text of a file says the same about a
document and about what is left of it (`Check.onDocument_bare`, `Check.onBlock_bare`).
-/

namespace SuiteLint

/-! ### Without lines -/

/-- The cells of a line as it stands in the file. -/
def Row.cellsOf (text : Text) : List Text := cut (clean text)

/-- The row without the line as a whole. -/
def Row.bare (row : Row) : Row := { row with raw := [] }

/-- The block without the lines of its rows. -/
def Block.bare (block : Block) : Block := { block with rows := block.rows.map Row.bare }

/-- The table without its heading as a whole, and without the lines of its rows. -/
def Table.bare (table : Table) : Table :=
  { table with
    header := none
    rows := table.rows.map Row.bare
    comments := table.comments.map Row.bare
    blocks := table.blocks.map Block.bare }

/-- The document without its text and the lines of its tables. -/
def Document.bare (document : Document) : Document :=
  { document with source := none, tables := document.tables.map Table.bare }

/-! ### Putting a document together -/

theorem Table.map_onLast {f g strip : Block → Block}
    (h : ∀ block, strip (f block) = g (strip block)) (blocks : List Block) :
    (onLast f blocks).map strip = onLast g (blocks.map strip) := by
  induction blocks using onLast.induct with
  | case1 => rfl
  | case2 block => exact congrArg (fun block => [block]) (h block)
  | case3 block others hne ih =>
    obtain ⟨other, others, rfl⟩ := List.exists_cons_of_ne_nil hne
    exact congrArg (strip block :: ·) ih

theorem Table.bare_openBlock (kind : BlockKind) (row : Row) :
    (openBlock kind row).bare = openBlock kind row.bare := by
  obtain ⟨line, raw, cells⟩ := row
  rcases cells with _ | ⟨name, _ | ⟨cell, cells⟩⟩ <;> rfl

theorem Block.bare_append (block : Block) (row : Row) :
    (block.append row).bare = block.bare.append row.bare := by
  simp [Block.append, Block.bare]

/-- Only its number and its cells count when a row is added to a table. -/
theorem Table.bare_append (table : Table) (row : Row) :
    (table.append row).bare = table.bare.append row.bare := by
  have hlast : (onLast (·.append row) table.blocks).map Block.bare =
      onLast (·.append row.bare) (table.blocks.map Block.bare) :=
    map_onLast (fun block => block.bare_append row) table.blocks
  obtain ⟨kind, line, name, header, rows, comments, blocks⟩ := table
  cases kind with
  | blocks kind =>
    have hempty : (blocks.map Block.bare).isEmpty = blocks.isEmpty := List.isEmpty_map
    have hcells : row.bare.cells = row.cells := rfl
    have hlabelled : row.bare.isLabelled = row.isLabelled := rfl
    simp only [append, bare, hempty, hcells, hlabelled]
    split
    · rfl
    split
    · simp [bare_openBlock]
    split
    · simp
    · rw [hlast]
  | leading | unknown | settings | globals | metadata | plain =>
    simp [append, bare]

namespace Document

theorem bare_startTable (row : Row) (name : Text) :
    (startTable row name).bare = (startTable row.bare name).bare := rfl

theorem headingName?_bare (row : Row) : headingName? row.bare = headingName? row := rfl

/-- Rows with the same numbers and cells make the same tables. -/
theorem tablesFrom_bare {current current' : Table} {rows rows' : List Row}
    (hcurrent : current.bare = current'.bare) (hrows : rows.map Row.bare = rows'.map Row.bare) :
    (tablesFrom current rows).map Table.bare = (tablesFrom current' rows').map Table.bare := by
  induction rows generalizing current current' rows' with
  | nil =>
    obtain rfl : rows' = [] := List.map_eq_nil_iff.mp hrows.symm
    exact congrArg (fun table => [table]) hcurrent
  | cons row rows ih =>
    obtain ⟨row', rows', rfl, hrow, hrows⟩ := List.map_eq_cons_iff.mp hrows.symm
    have hname : headingName? row' = headingName? row := by
      rw [← headingName?_bare row', hrow, headingName?_bare]
    rw [tablesFrom, tablesFrom, hname]
    rcases headingName? row with _ | name
    · refine ih ?_ hrows.symm
      rw [Table.bare_append, Table.bare_append, hcurrent, hrow]
    · refine congrArg₂ List.cons hcurrent (ih ?_ hrows.symm)
      rw [bare_startTable, bare_startTable row', hrow]

/-- Lines with the same cells make the same rows, wherever they are numbered from. -/
theorem rowsFrom_bare {texts texts' : List Text}
    (h : texts.map Row.cellsOf = texts'.map Row.cellsOf) (line : Int) :
    (rowsFrom line texts).map Row.bare = (rowsFrom line texts').map Row.bare := by
  induction texts generalizing texts' line with
  | nil =>
    obtain rfl : texts' = [] := List.map_eq_nil_iff.mp h.symm
    rfl
  | cons text texts ih =>
    obtain ⟨text', texts', rfl, htext, htexts⟩ := List.map_eq_cons_iff.mp h.symm
    have hrow : (Row.ofLine line text).bare = (Row.ofLine line text').bare :=
      congrArg (Row.mk line []) htext.symm
    exact congrArg₂ List.cons hrow (ih htexts.symm (line + 1))

theorem tablesOf_bare {rows rows' : List Row} (h : rows.map Row.bare = rows'.map Row.bare) :
    (tablesOf rows).map Table.bare = (tablesOf rows').map Table.bare := by
  rw [tablesOf, tablesOf, List.map_tail, List.map_tail, tablesFrom_bare rfl h]

end Document

/-! ### Looking at blocks -/

namespace Statement

theorem assembleFrom_bare {continuation? : Row → Option (List Text)}
    (h : ∀ row, continuation? row.bare = continuation? row) (current : Statement)
    (rows : List Row) :
    assembleFrom continuation? current (rows.map Row.bare) =
      assembleFrom continuation? current rows := by
  induction rows generalizing current with
  | nil => rfl
  | cons row rows ih =>
    rw [List.map_cons, assembleFrom, assembleFrom, h]
    split
    · exact ih _
    · exact congrArg _ (ih _)

/-- Statements are put together from the numbers and the cells of rows. -/
theorem assemble_bare {continuation? : Row → Option (List Text)}
    (h : ∀ row, continuation? row.bare = continuation? row) (rows : List Row) :
    assemble continuation? (rows.map Row.bare) = assemble continuation? rows := by
  cases rows with
  | nil => rfl
  | cons row rows => exact assembleFrom_bare h (ofRow row) rows

end Statement

namespace Block

theorem statements_bare (block : Block) : block.bare.statements = block.statements :=
  Statement.assemble_bare (fun _ => rfl) block.rows

theorem steps_bare (block : Block) : block.bare.steps = block.steps := by
  rw [steps, statements_bare, steps]

theorem countedSteps_bare (block : Block) : block.bare.countedSteps = block.countedSteps := by
  rw [countedSteps, steps_bare, countedSteps]

theorem tags_bare (block : Block) : block.bare.tags = block.tags := by
  rw [tags, statements_bare, tags]

theorem isDocumented_bare (block : Block) : block.bare.isDocumented = block.isDocumented := by
  rw [isDocumented, settings, statements_bare, isDocumented, settings]

theorem stepsNamed_bare (name message : Text) (block : Block) :
    stepsNamed name message block.bare = stepsNamed name message block := by
  rw [stepsNamed, steps_bare, stepsNamed]

theorem variableRemarks_bare (block : Block) :
    block.bare.variableRemarks = block.variableRemarks := by
  have hcells : block.bare.cells = block.cells := List.flatMap_map ..
  rw [variableRemarks, hcells, variableRemarks]

end Block

/-! ### Looking at tables -/

/-- The rows of the tables that are picked out by their kind. -/
theorem Table.rows_bare {p : Table → Bool} (hp : p ∘ bare = p) (tables : List Table) :
    ((tables.map bare).filter p).flatMap rows =
      ((tables.filter p).flatMap rows).map Row.bare := by
  rw [List.filter_map, hp, List.flatMap_map, List.map_flatMap]
  rfl

theorem hasSetting_bare (label : Text) (tables : List Table) :
    hasSetting label (tables.map Table.bare) = hasSetting label tables := by
  have hsearch (rows : List Row) :
      hasSetting.search label (rows.map Row.bare) = hasSetting.search label rows := by
    induction rows with
    | nil => rfl
    | cons row rows ih =>
      have hlabel : row.bare.label = row.label := rfl
      rw [List.map_cons, hasSetting.search, hasSetting.search, hlabel, ih]
  have hkind : Table.isSetting ∘ Table.bare = Table.isSetting := rfl
  rw [hasSetting, Table.rows_bare hkind, hsearch, hasSetting]

theorem unlessTemplated_bare (tables : List Table) (verdict : Verdict) :
    unlessTemplated (tables.map Table.bare) verdict = unlessTemplated tables verdict := by
  rw [unlessTemplated, isTemplated, hasSetting_bare, unlessTemplated, isTemplated]

namespace Document

theorem isSuite_bare (document : Document) : document.bare.isSuite = document.isSuite :=
  List.any_map

theorem label_bare (document : Document) : document.bare.label = document.label := by
  rw [label, isSuite_bare, label]

theorem kind?_bare (document : Document) : document.bare.kind? = document.kind? := by
  have hall : document.bare.tables.all (·.kind = .unknown) =
      document.tables.all (·.kind = .unknown) := List.all_map
  rw [kind?, hall, isSuite_bare, kind?]

theorem blocks_bare (document : Document) (kind : BlockKind) :
    document.bare.blocks kind = (document.blocks kind).map Block.bare := by
  have hkind : Table.holds kind ∘ Table.bare = Table.holds kind := rfl
  rw [blocks, bare, List.filter_map, hkind, List.flatMap_map, blocks, List.map_flatMap]
  rfl

theorem globals_bare (document : Document) :
    document.bare.globals = document.globals.map Row.bare := by
  have hkind : (fun table : Table => decide (table.kind = .globals)) ∘ Table.bare =
      fun table => decide (table.kind = .globals) := rfl
  have hlabelled : Row.isLabelled ∘ Row.bare = Row.isLabelled := rfl
  rw [globals, bare, Table.rows_bare hkind, List.filter_map, hlabelled, globals]

theorem documentationLine_bare (document : Document) :
    document.bare.documentationLine = document.documentationLine := by
  have hfind : document.bare.tables.find? Table.isSetting =
      (document.tables.find? Table.isSetting).map Table.bare := List.find?_map
  rw [documentationLine, hfind, documentationLine]
  cases document.tables.find? Table.isSetting <;> rfl

theorem variableRemarks_bare (document : Document) :
    document.bare.variableRemarks = document.variableRemarks := by
  have hblocks (blocks : List Block) : (blocks.map Block.bare).flatMap Block.variableRemarks =
      blocks.flatMap Block.variableRemarks := by
    rw [List.flatMap_map]
    exact List.flatMap_congr fun block _ => block.variableRemarks_bare
  rw [variableRemarks, globals_bare, testCases, keywords, blocks_bare, blocks_bare, hblocks,
    hblocks, List.flatMap_map]
  rfl

end Document

theorem repeatedAfter_map {α β : Type} {key : α → Text} {key' : β → Text} {f : α → β}
    (h : ∀ a, key' (f a) = key a) (seen : List Text) (as : List α) :
    repeatedAfter key' seen (as.map f) = (repeatedAfter key seen as).map f := by
  induction as generalizing seen with
  | nil => rfl
  | cons a as ih =>
    rw [List.map_cons, repeatedAfter, repeatedAfter, h, ih]
    split <;> rfl

theorem repeatedBlocks_bare (blocks : List Block) :
    repeatedBlocks (blocks.map Block.bare) = (repeatedBlocks blocks).map Block.bare :=
  repeatedAfter_map (fun _ => rfl) [] blocks

theorem Position.get_map {α β : Type} (f : α → β) (items : List α) (position : Int) :
    get (items.map f) position = (get items position).map f := by
  rw [get, get, List.length_map]
  rcases index? items.length position with _ | i
  · rfl
  · simp only [List.getElem?_map]
    cases items[i]? <;> rfl

/-! ### Checks -/

/-- The names of the checks that look at the text of a file. -/
def textRules : List Text := ["LineTooLong", "TrailingBlankLines", "FileTooLong"]

theorem SuiteCheck.apply_bare (check : SuiteCheck) (document : Document) :
    check.apply document.bare = check.apply document := by
  cases check with
  | periodInName | silent => rfl
  | echoPair values => cases values <;> rfl
  | invalidTable =>
    have hknown : (fun table : Table => !table.hasKnownName) ∘ Table.bare =
        fun table => !table.hasKnownName := rfl
    rw [apply, Document.bare, List.filter_map, hknown, List.map_map, apply]
    rfl
  | duplicateKeywords =>
    rw [apply, Document.keywords, Document.blocks_bare, repeatedBlocks_bare, List.map_map, apply]
    rfl
  | duplicateTests =>
    rw [apply, Document.testCases, Document.blocks_bare, repeatedBlocks_bare, List.map_map, apply]
    rfl
  | documentation =>
    rw [apply, Document.documentationLine_bare, Document.bare, hasSetting_bare, apply]
  | testCount limit =>
    have htemplated : isTemplated document.bare.tables = isTemplated document.tables :=
      hasSetting_bare _ _
    simp only [apply, htemplated, Document.testCases, Document.blocks_bare, List.length_map,
      Position.get_map]
    cases Position.get (document.blocks .test) limit <;> rfl

theorem ResourceCheck.apply_bare (check : ResourceCheck) (document : Document) :
    check.apply document.bare = check.apply document := by
  cases check with
  | echoValue value => cases value <;> rfl
  | echoName => rfl

theorem GeneralCheck.apply_bare {check : GeneralCheck} (h : check.name ∉ textRules)
    (document : Document) : check.apply document.bare = check.apply document := by
  cases check with
  | lineLength limit =>
    have hmem : ("LineTooLong" : Text) ∈ textRules := by decide
    exact absurd hmem h
  | blankEnd limit =>
    have hmem : ("TrailingBlankLines" : Text) ∈ textRules := by decide
    exact absurd hmem h
  | fileLength limit =>
    have hmem : ("FileTooLong" : Text) ∈ textRules := by decide
    exact absurd hmem h
  | variableCase => exact congrArg Except.ok document.variableRemarks_bare
  | silent => rfl
  | echoKind | echoKindBriefly =>
    rw [apply, Document.kindName, Document.kind?_bare]
    rfl

theorem TestCheck.apply_bare (check : TestCheck) (tables : List Table) (block : Block) :
    check.apply (tables.map Table.bare) block.bare = check.apply tables block := by
  cases check with
  | periodInName | silent => rfl
  | tagWithSpaces | countTags =>
    rw [apply, Block.tags_bare]
    rfl
  | documentation =>
    rw [apply, unlessTemplated_bare, Block.isDocumented_bare]
    rfl
  | fewSteps least | manySteps limit =>
    rw [apply, unlessTemplated_bare, Block.countedSteps_bare]
    rfl
  | forLoop | condition => rw [apply, unlessTemplated_bare, Block.stepsNamed_bare, apply]

theorem KeywordCheck.apply_bare (check : KeywordCheck) (block : Block) :
    check.apply block.bare = check.apply block := by
  cases check with
  | documentation =>
    rw [apply, Block.isDocumented_bare]
    rfl
  | fewSteps least =>
    rw [apply, Block.countedSteps_bare]
    rfl
  | silent => rfl
  | stepLines => rw [apply, Block.steps_bare, apply]

namespace Check

variable {check : Check}

/-- A check that does not look at the text of a file says the same without it. -/
theorem onDocument_bare (h : check.name ∉ textRules) (document : Document) :
    check.onDocument document.bare = check.onDocument document := by
  cases check with
  | suite check => exact check.apply_bare document
  | resource check => exact check.apply_bare document
  | general check => exact GeneralCheck.apply_bare h document
  | test check =>
    rw [onDocument, TestCheck.onDocument, Document.label_bare]
    rfl
  | keyword check =>
    cases check with
    | silent => rfl
    | documentation | fewSteps _ | stepLines =>
      rw [onDocument, KeywordCheck.onDocument, Document.label_bare]
      rfl

/-- No check on a block looks at the text of a file. -/
theorem onBlock_bare (check : Check) (document : Document) (block : Block) :
    check.onBlock document.bare block.bare = check.onBlock document block := by
  cases check with
  | test check =>
    obtain ⟨kind, name, line, rows⟩ := block
    cases kind with
    | test => exact check.apply_bare document.tables _
    | keyword => cases check <;> rfl
  | keyword check => exact check.apply_bare block
  | suite check | resource check | general check => rfl

end Check

/-! ### Rules -/

theorem Rule.inspect_bare {rule : Rule} (h : rule.check.name ∉ textRules) (document : Document) :
    rule.inspect document.bare = rule.inspect document := by
  have hblocks (kind : BlockKind) :
      ((document.bare.blocks kind).map fun block => rule.check.onBlock document.bare block) =
        (document.blocks kind).map fun block => rule.check.onBlock document block := by
    rw [Document.blocks_bare, List.map_map]
    exact List.map_congr_left fun block _ => rule.check.onBlock_bare document block
  have hverdicts : rule.verdicts document.bare = rule.verdicts document := by
    unfold verdicts
    split
    · exact hblocks .test
    · exact hblocks .keyword
    · rw [Check.onDocument_bare h]
  rw [inspect, hverdicts, inspect]
  rfl

/-- What a rule is applied to, without its text. -/
def Subject.bare : Subject → Subject
  | document d => document d.bare
  | block d b => block d.bare b.bare

theorem Check.on_bare {check : Check} (h : check.name ∉ textRules) (subject : Subject) :
    check.on subject.bare = check.on subject := by
  cases subject with
  | document document => exact onDocument_bare h document
  | block document block => exact check.onBlock_bare document block

/-- The rounds of a document without its text are its rounds, without the text. -/
theorem Document.rounds_bare (document : Document) :
    document.bare.rounds = document.rounds.map fun round => (round.1, round.2.bare) := by
  unfold rounds testCases keywords
  rw [isSuite_bare, blocks_bare, blocks_bare]
  split <;> simp only [List.map_append, List.map_cons, List.map_map, List.map_nil] <;> rfl

namespace Registry

/-- What comes of applying rules to a document round by round, apart from those that look at
its text. -/
def cellApplications (rules : Registry) (document : Document) :
    List (Scope × List (Rule × Verdict)) :=
  document.rounds.map fun round =>
    (round.1, (round.applications rules).filter fun application =>
      application.1.check.name ∉ textRules)

/-- Whatever rules there are, those that do not look at the text of a document say the same
about it without its text, in the same rounds and the same order. -/
theorem cellApplications_bare (rules : Registry) (document : Document) :
    rules.cellApplications document.bare = rules.cellApplications document := by
  rw [cellApplications, Document.rounds_bare, List.map_map, cellApplications]
  refine List.map_congr_left fun round _ => congrArg (Prod.mk round.1) ?_
  unfold Round.applications
  rw [List.filter_map, List.filter_map]
  refine List.map_congr_left fun rule hrule => ?_
  have hname := List.of_mem_filter hrule
  rw [Check.on_bare (of_decide_eq_true hname)]

end Registry

/-! ### Files -/

namespace Document

/-- **How cells are set apart does not matter.** If two texts have as many lines, and lines in
the same place have the same cells, then the files with these texts at a path are of the same
kind and have the same tables, up to the lines themselves. Each rule finds the same in both,
and rules together say the same in the same rounds and the same order, apart from those that
make one of the three checks on the text. -/
theorem read_same_cells {tree tree' : FileTree} {path : Text} {content content' : Content}
    {source source' : Text} (hcontent : tree.content path = .ok content)
    (hcontent' : tree'.content path = .ok content')
    (hfolder : tree.workingFolder = tree'.workingFolder)
    (hsource : Utf8.decode content.bytes = .ok source)
    (hsource' : Utf8.decode content'.bytes = .ok source')
    (hcells : (Text.fullLines source).map Row.cellsOf =
      (Text.fullLines source').map Row.cellsOf) :
    ∃ document document', read tree path = .ok document ∧ read tree' path = .ok document' ∧
      document.label = document'.label ∧ document.name = document'.name ∧
      document.path = document'.path ∧
      document.tables.map Table.bare = document'.tables.map Table.bare ∧
      (∀ rule : Rule, rule.check.name ∉ textRules →
        rule.inspect document = rule.inspect document') ∧
      ∀ rules : Registry, rules.cellApplications document = rules.cellApplications document' := by
  have hpath : tree.absolute path = tree'.absolute path := by
    rw [FileTree.absolute, FileTree.workingPath, hfolder]
    rfl
  have htables := tablesOf_bare (rowsFrom_bare hcells 1)
  refine ⟨_, _, read_eq_of_decode hcontent hsource, read_eq_of_decode hcontent' hsource', ?_⟩
  generalize hdocument : Document.mk (Path.stem path) (tree.absolute path) (some source)
    (tablesOf (rowsFrom 1 (Text.fullLines source))) = document
  generalize hdocument' : Document.mk (Path.stem path) (tree'.absolute path) (some source')
    (tablesOf (rowsFrom 1 (Text.fullLines source'))) = document'
  -- without text and lines, the two documents are the same
  have hbare : document.bare = document'.bare := by
    rw [← hdocument, ← hdocument', bare, bare, hpath, htables]
  refine ⟨?_, ?_, ?_, ?_, fun rule hrule => ?_, fun rules => ?_⟩
  · rw [← label_bare, hbare, label_bare]
  · change document.bare.name = document'.bare.name
    rw [hbare]
  · change document.bare.path = document'.bare.path
    rw [hbare]
  · change document.bare.tables = document'.bare.tables
    rw [hbare]
  · rw [← Rule.inspect_bare hrule, hbare, Rule.inspect_bare hrule]
  · rw [← rules.cellApplications_bare, hbare, rules.cellApplications_bare]

/-- A folder with a suite in which cells are set apart by gaps. -/
def spacedTree : FileTree where
  entries := [.file "a.robot" { bytes := [42, 84, 101, 115, 116, 32, 99, 97, 115, 101, 10,
    84, 10, 32, 32, 97, 32, 32, 98] }]
  workingFolder := []

/-- A folder with the same suite, in which cells are set apart by bars. -/
def pipedTree : FileTree where
  entries := [.file "a.robot" { bytes := [124, 32, 42, 84, 101, 115, 116, 32, 99, 97, 115, 101, 10,
    124, 32, 84, 10, 124, 32, 32, 124, 32, 97, 32, 124, 32, 98] }]
  workingFolder := []

/-- With gaps and with bars, a suite is found to lack the same documentation. Its lines are
longer with bars. -/
theorem read_same_cells_piped :
    let undocumented : Rule := .ofCheck (.test .documentation) .error
    let tooLong : Rule := .ofCheck (.general (.lineLength 11)) .warning
    ∃ document document', read spacedTree "a.robot" = .ok document ∧
      read pipedTree "a.robot" = .ok document' ∧
      document.tables.map Table.bare = document'.tables.map Table.bare ∧
      undocumented.inspect document = undocumented.inspect document' ∧
      (undocumented.inspect document).reports.length = 1 ∧
      (tooLong.inspect document).reports.length = 0 ∧
      (tooLong.inspect document').reports.length = 1 := by
  intro undocumented tooLong
  have hcontent : spacedTree.content "a.robot" = .ok { bytes := [42, 84, 101, 115, 116, 32, 99, 97,
      115, 101, 10, 84, 10, 32, 32, 97, 32, 32, 98] } := by rfl
  have hcontent' : pipedTree.content "a.robot" = .ok { bytes := [124, 32, 42, 84, 101, 115, 116, 32,
      99, 97, 115, 101, 10, 124, 32, 84, 10, 124, 32, 32, 124, 32, 97, 32, 124, 32, 98] } := by rfl
  have hsource : Utf8.decode [42, 84, 101, 115, 116, 32, 99, 97, 115, 101, 10, 84, 10, 32, 32, 97,
      32, 32, 98] = .ok "*Test case\nT\n  a  b" := by rfl
  have hsource' : Utf8.decode [124, 32, 42, 84, 101, 115, 116, 32, 99, 97, 115, 101, 10, 124, 32,
      84, 10, 124, 32, 32, 124, 32, 97, 32, 124, 32, 98] =
        .ok "| *Test case\n| T\n|  | a | b" := by rfl
  have hcells : (Text.fullLines "*Test case\nT\n  a  b").map Row.cellsOf =
      (Text.fullLines "| *Test case\n| T\n|  | a | b").map Row.cellsOf := by decide +kernel
  have hspaced : (read spacedTree "a.robot").toOption.map (fun document =>
      ((undocumented.inspect document).reports.length,
        (tooLong.inspect document).reports.length)) = some (1, 0) := by decide +kernel
  have hpiped : (read pipedTree "a.robot").toOption.map (fun document =>
      (tooLong.inspect document).reports.length) = some 1 := by decide +kernel
  obtain ⟨document, document', hread, hread', -, -, -, htables, hrule, -⟩ :=
    read_same_cells hcontent hcontent' rfl hsource hsource' hcells
  rw [hread] at hspaced
  rw [hread'] at hpiped
  obtain ⟨hlacks, hshort⟩ := Prod.mk.inj (Option.some.inj hspaced)
  exact ⟨document, document', hread, hread', htables, hrule undocumented (by decide), hlacks,
    hshort, Option.some.inj hpiped⟩

end Document

end SuiteLint
