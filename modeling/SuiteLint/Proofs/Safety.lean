import Mathlib.Tactic
import SuiteLint.Proofs.Placement
import SuiteLint.Proofs.Reporting
import SuiteLint.Proofs.TunedRules

/-!
# When linting a file gives up

Two of the standing checks use their limit as a position: the one on the number of
test cases and the one on the number of their steps. Where there are more than the
limit allows, they look up the first one that is too many, and a negative limit counts
from the end. If it counts further than there are test cases or steps, nothing is there,
and linting gives up. Nothing else makes it give up, whatever the file holds and
whatever the severities and limits are (`Session.lintFile_gives_up`).

For this every row of a table of settings has to have a first cell, since a check that
looks for a setting looks there. This is where what is known of the rows of a file comes
in (`Document.cells_of_mem_keptRows`).
-/

namespace SuiteLint

/-! ### Looking up a limit -/

namespace Position

/-- A position that counts back from the end of a list beyond its beginning. -/
def IsBefore (position : Int) (length : Nat) : Prop := position < 0 ∧ (length : Int) < -position

/-- There is nothing before the beginning of a list. -/
theorem get_of_isBefore {α : Type} {items : List α} {position : Int}
    (h : IsBefore position items.length) :
    ∃ fault : Fault, fault.isPositional = true ∧ get items position = .error fault := by
  obtain ⟨hneg, hlength⟩ := h
  have hindex : index? items.length position = none := by
    unfold index?
    simp only [if_pos hneg]
    rw [if_neg]
    omega
  unfold get
  rw [hindex]
  by_cases hfits : fits position = true
  · exact ⟨.noItem, rfl, by rw [if_pos hfits]⟩
  · exact ⟨.farPosition, rfl, by rw [if_neg hfits]⟩

/-- There is something at any other position before the end. -/
theorem get_of_not_isBefore {α : Type} {items : List α} {position : Int}
    (h : ¬IsBefore position items.length) (hlength : position < items.length) :
    ∃ item, get items position = .ok item := by
  unfold IsBefore at h
  have hindex : ∃ i < items.length, index? items.length position = some i := by
    unfold index?
    by_cases hneg : position < 0
    · refine ⟨(position + items.length).toNat, by omega, ?_⟩
      simp only [if_pos hneg]
      rw [if_pos (by omega)]
    · refine ⟨position.toNat, by omega, ?_⟩
      simp only [if_neg hneg]
      rw [if_pos (by omega)]
  obtain ⟨i, hi, hindex⟩ := hindex
  refine ⟨items[i], ?_⟩
  unfold get
  rw [hindex]
  simp only [List.getElem?_eq_getElem hi]

end Position

/-! ### Looking for a setting -/

namespace Document

/-- A row of a table of settings has the given label. -/
def HasSetting (document : Document) (label : Text) : Prop :=
  ∃ table ∈ document.tables, table.kind = .settings ∧
    ∃ row ∈ table.rows, row.cells.head?.map Text.lower = some label

/-- The tests of a document are made from a template. -/
def Templated (document : Document) : Prop := document.HasSetting "test template"

end Document

/-- Looking for a label in rows with cells finds it or does not. -/
theorem search_eq (label : Text) {rows : List Row} (hcells : ∀ row ∈ rows, row.cells ≠ []) :
    ∃ found, hasSetting.search label rows = .ok found ∧
      (found = true ↔ ∃ row ∈ rows, row.cells.head?.map Text.lower = some label) := by
  induction rows with
  | nil => exact ⟨false, rfl, by simp⟩
  | cons row rows ih =>
    obtain ⟨hrow, hrows⟩ := List.forall_mem_cons.mp hcells
    obtain ⟨cell, cells, hcons⟩ := List.exists_cons_of_ne_nil hrow
    rw [hasSetting.search, Row.label, hcons]
    by_cases hlabel : Text.lower cell = label
    · exact ⟨true, by simp [hlabel], by simp [hcons, hlabel]⟩
    · obtain ⟨found, hfound, hiff⟩ := ih hrows
      refine ⟨found, by simp [hlabel, hfound], ?_⟩
      rw [hiff]
      simp [hcons, hlabel]

namespace Document

/-- A document as it is read from a file that can be decoded. -/
structure IsRead (document : Document) : Prop where
  /-- It has a text. -/
  source : document.source ≠ none
  /-- Its rows have cells. -/
  cells : ∀ row ∈ document.keptRows, row.cells ≠ []
  /-- Its test cases are test cases, and its keywords are keywords. -/
  kinds : ∀ kind, ∀ block ∈ document.blocks kind, block.kind = kind

theorem IsRead.hasSetting {document : Document} (h : document.IsRead) (label : Text) :
    ∃ found, hasSetting label document.tables = .ok found ∧
      (found = true ↔ document.HasSetting label) := by
  have hcells : ∀ row ∈ (document.tables.filter Table.isSetting).flatMap Table.rows,
      row.cells ≠ [] := by
    intro row hrow
    obtain ⟨table, htable, hrow⟩ := List.mem_flatMap.mp hrow
    refine h.cells row (List.mem_flatMap.mpr ⟨table, List.mem_of_mem_filter htable, ?_⟩)
    exact List.mem_append_left _ (List.mem_append_left _ hrow)
  obtain ⟨found, hfound, hiff⟩ := search_eq label hcells
  refine ⟨found, hfound, hiff.trans ?_⟩
  unfold HasSetting
  constructor
  · rintro ⟨row, hrow, hlabel⟩
    obtain ⟨table, htable, hrow⟩ := List.mem_flatMap.mp hrow
    obtain ⟨htable, hsetting⟩ := List.mem_filter.mp htable
    exact ⟨table, htable, of_decide_eq_true hsetting, row, hrow, hlabel⟩
  · rintro ⟨table, htable, hsetting, row, hrow, hlabel⟩
    have hmem : table ∈ document.tables.filter Table.isSetting :=
      List.mem_filter.mpr ⟨htable, decide_eq_true hsetting⟩
    exact ⟨row, List.mem_flatMap.mpr ⟨table, hmem, hrow⟩, hlabel⟩

/-- Where tests are made from a template, nothing is said, and else what there is to
say. -/
theorem IsRead.unlessTemplated {document : Document} (h : document.IsRead) (verdict : Verdict) :
    (document.Templated → unlessTemplated document.tables verdict = .ok []) ∧
      (¬document.Templated → unlessTemplated document.tables verdict = verdict) := by
  obtain ⟨found, hfound, hiff⟩ := h.hasSetting "test template"
  unfold SuiteLint.unlessTemplated isTemplated
  rw [hfound]
  constructor
  · intro htemplated
    rw [hiff.mpr htemplated]
    rfl
  · intro htemplated
    rw [Bool.eq_false_iff.mpr fun hcon => htemplated (hiff.mp hcon)]
    rfl

end Document

/-! ### Checks that use their limit as a position -/

/-- What is said about the first of some items that is too many. -/
def limitVerdict {α : Type} (items : List α) (limit : Int) (remark : α → Remark) : Verdict :=
  if (items.length : Int) ≤ limit then .ok []
  else do
    let surplus ← Position.get items limit
    return [remark surplus]

theorem limitVerdict_of_isBefore {α : Type} {items : List α} {limit : Int}
    (h : Position.IsBefore limit items.length) (remark : α → Remark) :
    ∃ fault : Fault, fault.isPositional = true ∧
      limitVerdict items limit remark = .error fault := by
  obtain ⟨fault, hpositional, hget⟩ := Position.get_of_isBefore h
  obtain ⟨hneg, -⟩ := h
  refine ⟨fault, hpositional, ?_⟩
  unfold limitVerdict
  rw [if_neg (by omega), hget]
  rfl

theorem limitVerdict_of_not_isBefore {α : Type} {items : List α} {limit : Int}
    (h : ¬Position.IsBefore limit items.length) (remark : α → Remark) :
    ∃ remarks, limitVerdict items limit remark = .ok remarks := by
  unfold limitVerdict
  by_cases hle : (items.length : Int) ≤ limit
  · exact ⟨[], by rw [if_pos hle]⟩
  · obtain ⟨item, hget⟩ := Position.get_of_not_isBefore h (by omega)
    refine ⟨[remark item], ?_⟩
    rw [if_neg hle, hget]
    rfl

namespace Document.IsRead

variable {document : Document}

/-- Such a verdict is a fault exactly if the limit counts back beyond the beginning, and
nothing if tests are made from a template. -/
theorem limitVerdict_cases {α : Type} (h : document.IsRead) (items : List α) (limit : Int)
    (remark : α → Remark) :
    (¬document.Templated ∧ Position.IsBefore limit items.length ∧
      ∃ fault : Fault, fault.isPositional = true ∧
        SuiteLint.unlessTemplated document.tables (limitVerdict items limit remark) =
          .error fault) ∨
    (¬(¬document.Templated ∧ Position.IsBefore limit items.length) ∧
      ∃ remarks, SuiteLint.unlessTemplated document.tables (limitVerdict items limit remark) =
        .ok remarks) := by
  obtain ⟨hnothing, hverdict⟩ := h.unlessTemplated (limitVerdict items limit remark)
  by_cases htemplated : document.Templated
  · exact .inr ⟨fun hcon => hcon.1 htemplated, [], hnothing htemplated⟩
  · rw [hverdict htemplated]
    by_cases hbefore : Position.IsBefore limit items.length
    · exact .inl ⟨htemplated, hbefore, limitVerdict_of_isBefore hbefore remark⟩
    · exact .inr ⟨fun hcon => hbefore hcon.2, limitVerdict_of_not_isBefore hbefore remark⟩

theorem apply_testCount (h : document.IsRead) (limit : Int) :
    (¬document.Templated ∧ Position.IsBefore limit document.testCases.length ∧
      ∃ fault : Fault, fault.isPositional = true ∧
        SuiteCheck.apply document (.testCount limit) = .error fault) ∨
    (¬(¬document.Templated ∧ Position.IsBefore limit document.testCases.length) ∧
      ∃ remarks, SuiteCheck.apply document (.testCount limit) = .ok remarks) :=
  h.limitVerdict_cases document.testCases limit _

theorem apply_manySteps (h : document.IsRead) (block : Block) (limit : Int) :
    (¬document.Templated ∧ Position.IsBefore limit block.countedSteps.length ∧
      ∃ fault : Fault, fault.isPositional = true ∧
        TestCheck.apply document.tables block (.manySteps limit) = .error fault) ∨
    (¬(¬document.Templated ∧ Position.IsBefore limit block.countedSteps.length) ∧
      ∃ remarks, TestCheck.apply document.tables block (.manySteps limit) = .ok remarks) :=
  h.limitVerdict_cases block.countedSteps limit _

/-! ### All other checks -/

/-- A check on test cases does its work on the test cases. -/
theorem onBlock_test (h : document.IsRead) {test : Block} (htest : test ∈ document.testCases)
    (check : TestCheck) :
    (Check.test check).onBlock document test = check.apply document.tables test := by
  rw [Check.onBlock, h.kinds .test test htest]

/-- No other check on test cases gives up. -/
theorem apply_test (h : document.IsRead) (block : Block) {check : TestCheck}
    (hsteps : ∀ limit, check ≠ .manySteps limit) :
    ∃ remarks, check.apply document.tables block = .ok remarks := by
  have htemplated : ∀ remarks, ∃ remarks',
      SuiteLint.unlessTemplated document.tables (.ok remarks) = .ok remarks' := by
    intro remarks
    by_cases htemplated : document.Templated
    · exact ⟨[], (h.unlessTemplated _).1 htemplated⟩
    · exact ⟨remarks, (h.unlessTemplated _).2 htemplated⟩
  cases check with
  | manySteps limit => exact absurd rfl (hsteps limit)
  -- these are silent where tests are made from a template
  | documentation => exact htemplated _
  | fewSteps least => exact htemplated _
  | forLoop => exact htemplated _
  | condition => exact htemplated _
  | _ => exact ⟨_, rfl⟩

/-- No other standing check on suites gives up. -/
theorem apply_suite (h : document.IsRead) {limits : Limits} {check : SuiteCheck}
    (hmem : Check.suite check ∈ Check.standing limits)
    (htests : check ≠ .testCount limits.tests) :
    ∃ remarks, check.apply document = .ok remarks := by
  cases check with
  | documentation =>
    obtain ⟨found, hfound, -⟩ := h.hasSetting "documentation"
    rw [SuiteCheck.apply, hfound]
    cases found <;> exact ⟨_, rfl⟩
  | testCount limit => simp_all [Check.standing]
  -- this one is not a standing check
  | echoPair values => simp [Check.standing] at hmem
  | _ => exact ⟨_, rfl⟩

theorem apply_general (h : document.IsRead) (check : GeneralCheck) :
    ∃ remarks, check.apply document = .ok remarks := by
  obtain ⟨source, hsource⟩ := Option.ne_none_iff_exists'.mp h.source
  have htext : ∀ find, ∃ remarks, document.inSource find = .ok remarks := by
    intro find
    unfold inSource
    rw [hsource]
    exact ⟨_, rfl⟩
  cases check with
  | lineLength limit => exact htext _
  | blankEnd limit => exact htext _
  | fileLength limit => exact htext _
  | _ => exact ⟨_, rfl⟩

end Document.IsRead

theorem KeywordCheck.apply_eq_ok (block : Block) (check : KeywordCheck) :
    ∃ remarks, check.apply block = .ok remarks := by
  cases check <;> exact ⟨_, rfl⟩

/-! ### The verdicts on a document -/

/-- A suite without a template that has a test case with fewer steps, or itself has fewer
test cases, than the limit of the rule in question counts back. -/
def Document.GivesUp (document : Document) (limits : Limits) (severity : Text → Severity) : Prop :=
  document.isSuite = true ∧ ¬document.Templated ∧
    ((severity "TooManyTestSteps" ≠ .ignore ∧
      ∃ test ∈ document.testCases,
        Position.IsBefore limits.mostTestSteps test.countedSteps.length) ∨
    (severity "TooManyTestCases" ≠ .ignore ∧
      Position.IsBefore limits.tests document.testCases.length))

namespace Registry

variable {document : Document} {limits : Limits} {severity : Text → Severity}

theorem suite_verdict_error (h : document.IsRead) (hsuite : document.isSuite = true)
    {application : Rule × Verdict} {fault : Fault}
    (hmem : application ∈ (tuned limits severity).onDocument .suite document)
    (herror : application.2 = .error fault) :
    document.GivesUp limits severity ∧ fault.isPositional = true := by
  obtain ⟨rule, hrule, rfl⟩ := List.mem_map.mp hmem
  obtain ⟨check, hcheck, hscope, hactive, rfl⟩ := mem_active_tuned.mp hrule
  cases check with
  | suite check =>
    by_cases htests : check = .testCount limits.tests
    · obtain rfl := htests
      rcases h.apply_testCount limits.tests with
        ⟨htemplated, hbefore, fault', hpositional, hverdict⟩ | ⟨-, remarks, hverdict⟩
      · obtain rfl : fault' = fault := Except.error.inj (hverdict.symm.trans herror)
        exact ⟨⟨hsuite, htemplated, .inr ⟨hactive, hbefore⟩⟩, hpositional⟩
      · cases hverdict.symm.trans herror
    · obtain ⟨remarks, hverdict⟩ := h.apply_suite hcheck htests
      cases hverdict.symm.trans herror
  | _ => cases hscope

theorem test_verdict_error (h : document.IsRead) (hsuite : document.isSuite = true)
    {application : Rule × Verdict} {fault : Fault}
    (hmem : application ∈ (tuned limits severity).onBlocks .test document document.testCases)
    (herror : application.2 = .error fault) :
    document.GivesUp limits severity ∧ fault.isPositional = true := by
  obtain ⟨test, htest, hmem⟩ := List.mem_flatMap.mp hmem
  obtain ⟨rule, hrule, rfl⟩ := List.mem_map.mp hmem
  obtain ⟨check, hcheck, hscope, hactive, rfl⟩ := mem_active_tuned.mp hrule
  cases check with
  | test check =>
    rw [show (Rule.ofCheck (.test check) _).check = .test check from rfl,
      h.onBlock_test htest] at herror
    by_cases hsteps : ∃ limit, check = .manySteps limit
    · obtain ⟨limit, rfl⟩ := hsteps
      obtain rfl : limit = limits.mostTestSteps := by simpa [Check.standing] using hcheck
      rcases h.apply_manySteps test limits.mostTestSteps with
        ⟨htemplated, hbefore, fault', hpositional, hverdict⟩ | ⟨-, remarks, hverdict⟩
      · obtain rfl : fault' = fault := Except.error.inj (hverdict.symm.trans herror)
        exact ⟨⟨hsuite, htemplated, .inl ⟨hactive, test, htest, hbefore⟩⟩, hpositional⟩
      · cases hverdict.symm.trans herror
    · obtain ⟨remarks, hverdict⟩ :=
        h.apply_test test fun limit hcheck => hsteps ⟨limit, hcheck⟩
      cases hverdict.symm.trans herror
  | _ => cases hscope

/-- **A verdict that is a fault** is one of the two, and the fault is one of position. -/
theorem verdict_error (h : document.IsRead) {application : Rule × Verdict} {fault : Fault}
    (hmem : application ∈ (tuned limits severity).applications document)
    (herror : application.2 = .error fault) :
    document.GivesUp limits severity ∧ fault.isPositional = true := by
  rw [applications_eq] at hmem
  rcases List.mem_append.mp hmem with hmem | hkeyword
  · rcases List.mem_append.mp hmem with hgeneral | hmem
    · obtain ⟨rule, hrule, rfl⟩ := List.mem_map.mp hgeneral
      obtain ⟨check, -, hscope, -, rfl⟩ := mem_active_tuned.mp hrule
      cases check with
      | general check =>
        obtain ⟨remarks, hverdict⟩ := h.apply_general check
        cases hverdict.symm.trans herror
      | _ => cases hscope
    · by_cases hsuite : document.isSuite = true
      · rw [if_pos hsuite] at hmem
        rcases List.mem_append.mp hmem with hmem | hmem
        · exact suite_verdict_error h hsuite hmem herror
        · exact test_verdict_error h hsuite hmem herror
      · rw [if_neg hsuite, onDocument, active_resource_tuned] at hmem
        cases hmem
  · obtain ⟨block, -, hmem⟩ := List.mem_flatMap.mp hkeyword
    obtain ⟨rule, hrule, rfl⟩ := List.mem_map.mp hmem
    obtain ⟨check, -, hscope, -, rfl⟩ := mem_active_tuned.mp hrule
    cases check with
    | keyword check =>
      obtain ⟨remarks, hverdict⟩ := check.apply_eq_ok block
      cases hverdict.symm.trans herror
    | _ => cases hscope

theorem mem_applications_suite {rules : Registry} {rule : Rule}
    (hsuite : document.isSuite = true) (hrule : rule ∈ rules.active .suite) :
    (rule, rule.check.onDocument document) ∈ rules.applications document := by
  rw [applications_eq, if_pos hsuite]
  refine List.mem_append_left _ (List.mem_append_right _ (List.mem_append_left _ ?_))
  exact List.mem_map.mpr ⟨rule, hrule, rfl⟩

theorem mem_applications_test {rules : Registry} {rule : Rule} {test : Block}
    (hsuite : document.isSuite = true) (htest : test ∈ document.testCases)
    (hrule : rule ∈ rules.active .test) :
    (rule, rule.check.onBlock document test) ∈ rules.applications document := by
  rw [applications_eq, if_pos hsuite]
  refine List.mem_append_left _ (List.mem_append_right _ (List.mem_append_right _ ?_))
  exact List.mem_flatMap.mpr ⟨test, htest, List.mem_map.mpr ⟨rule, hrule, rfl⟩⟩

/-- Conversely, if a document gives up, one of the verdicts is a fault. -/
theorem exists_verdict_error (h : document.IsRead) (hgives : document.GivesUp limits severity) :
    ∃ application ∈ (tuned limits severity).applications document, ∃ fault,
      application.2 = .error fault := by
  obtain ⟨hsuite, htemplated, ⟨hactive, test, htest, hbefore⟩ | ⟨hactive, hbefore⟩⟩ := hgives
  · have hrule : .ofCheck (.test (.manySteps limits.mostTestSteps)) (severity "TooManyTestSteps") ∈
        (tuned limits severity).active .test :=
      mem_active_tuned.mpr ⟨.test (.manySteps limits.mostTestSteps), by simp [Check.standing], rfl,
        hactive, rfl⟩
    rcases h.apply_manySteps test limits.mostTestSteps with
      ⟨-, -, fault, -, hverdict⟩ | ⟨hcon, -⟩
    · exact ⟨_, mem_applications_test hsuite htest hrule, fault,
        (h.onBlock_test htest _).trans hverdict⟩
    · exact absurd ⟨htemplated, hbefore⟩ hcon
  · have hrule : .ofCheck (.suite (.testCount limits.tests)) (severity "TooManyTestCases") ∈
        (tuned limits severity).active .suite :=
      mem_active_tuned.mpr ⟨.suite (.testCount limits.tests), by simp [Check.standing], rfl,
        hactive, rfl⟩
    rcases h.apply_testCount limits.tests with ⟨-, -, fault, -, hverdict⟩ | ⟨hcon, -⟩
    · exact ⟨_, mem_applications_suite hsuite hrule, fault, hverdict⟩
    · exact absurd ⟨htemplated, hbefore⟩ hcon

end Registry

/-! ### Linting a file that can be decoded -/

theorem Fault.isPositional_ofRule (name : Text) (fault : Fault) :
    (fault.ofRule name).isPositional = fault.isPositional := by
  cases fault <;> rfl

namespace Document

/-- A file that can be decoded can be read. -/
theorem read_of_decode {tree : FileTree} {path : Text} {content : Content} {source : Text}
    (hcontent : tree.content path = .ok content)
    (hsource : Utf8.decode content.bytes = .ok source) :
    ∃ document, read tree path = .ok document ∧ document.IsRead := by
  have htables : tablesOf (rowsFrom 1 (Text.fullLines source)) = _ := rfl
  exact ⟨_, read_eq_of_decode hcontent hsource, Option.some_ne_none source,
    cells_of_mem_keptRows htables, kind_of_mem_blocks htables⟩

end Document

namespace Session

/-- **Linting a file that can be decoded gives up in two cases only**, whatever it holds,
with the standing rules at any severities and limits and with the default template. The
fault is then one of position. If the limits in question are not negative, linting never
gives up. -/
theorem lintFile_gives_up {tree : FileTree} {path : Text} {content : Content} {source : Text}
    {limits : Limits} {severity : Text → Severity} (hcontent : tree.content path = .ok content)
    (hsource : Utf8.decode content.bytes = .ok source) (session : Session)
    (hrules : session.rules = Registry.tuned limits severity)
    (htemplate : session.settings.template = defaultTemplate)
    (haccepts : session.accepts path = true) :
    ∃ document, Document.read tree path = .ok document ∧
      ((∃ stop, (lintFile tree path session).result = .error stop) ↔
        document.GivesUp limits severity) ∧
      (∀ stop, (lintFile tree path session).result = .error stop →
        ∃ fault : Fault, fault.isPositional = true ∧ stop = .fault fault) ∧
      (0 ≤ limits.mostTestSteps → 0 ≤ limits.tests →
        (lintFile tree path session).result = .ok ()) := by
  obtain ⟨document, hread, hisRead⟩ := Document.read_of_decode hcontent hsource
  have hload : Document.load tree path = (document, []) := by
    unfold Document.load
    rw [hread]
  have hcoherent : session.rules.Coherent := hrules ▸ Registry.coherent_tuned limits severity
  have hready : Ready (session.opened path) := ⟨by simp [opened], htemplate⟩
  have hresult : (lintFile tree path session).result =
      (Action.forEach Event.perform ((Registry.tuned limits severity).events document)
        (session.opened path)).result := by
    rw [lintFile_eq_events, eventsOf, if_pos haccepts, trace_fileSteps hcoherent, hload, hrules,
      forEach_opening]
  refine ⟨document, hread, ?_⟩
  rw [hresult]
  -- either no verdict is a fault, or the first one that is ends it
  rcases forEach_perform_ready hready ((Registry.tuned limits severity).events document) with
    ⟨hnone, hdone⟩ | ⟨fault, hfault, hstop⟩
  · have hnever : ¬document.GivesUp limits severity := by
      intro hgives
      obtain ⟨application, happlication, cause, hcause⟩ :=
        Registry.exists_verdict_error hisRead hgives
      exact hnone _ (Registry.givingUp_mem_events.mpr
        ⟨application, happlication, cause, hcause, rfl⟩)
    rw [hdone]
    refine ⟨⟨?_, fun hgives => absurd hgives hnever⟩, ?_, fun _ _ => rfl⟩
    · rintro ⟨stop, hstop⟩
      cases hstop
    · intro stop hstop
      cases hstop
  · obtain ⟨application, happlication, cause, hcause, rfl⟩ :=
      Registry.givingUp_mem_events.mp hfault
    obtain ⟨hgives, hpositional⟩ := Registry.verdict_error hisRead happlication hcause
    rw [hstop]
    refine ⟨⟨fun _ => hgives, fun _ => ⟨_, rfl⟩⟩, ?_, ?_⟩
    · intro stop heq
      refine ⟨_, ?_, (Except.error.inj heq).symm⟩
      rw [Fault.isPositional_ofRule, hpositional]
    · intro hsteps htests
      obtain ⟨-, -, ⟨-, test, -, hneg, -⟩ | ⟨-, hneg, -⟩⟩ := hgives
      · omega
      · omega

/-- A folder with a suite that has one test case, and that one has no steps. -/
def smallTree : FileTree where
  entries := [.file "a.robot" { bytes := [42, 84, 101, 115, 116, 32, 99, 97, 115, 101, 10, 84] }]
  workingFolder := []

/-- The last step of a test case without steps is nowhere, but to ask for at most ten
steps does no harm. -/
theorem lintFile_gives_up_without_steps :
    (∃ document, Document.read smallTree "a.robot" = .ok document ∧
      document.GivesUp { mostTestSteps := -1 } Registry.standingSeverity) ∧
    (lintFile smallTree "a.robot"
      { rules := Registry.tuned { mostTestSteps := -1 } Registry.standingSeverity }).result =
        .error (.fault .noItem) ∧
    (lintFile smallTree "a.robot" {}).result = .ok () := by
  have hcontent : smallTree.content "a.robot" =
      .ok { bytes := [42, 84, 101, 115, 116, 32, 99, 97, 115, 101, 10, 84] } := by rfl
  have hsource : Utf8.decode [42, 84, 101, 115, 116, 32, 99, 97, 115, 101, 10, 84] =
      .ok "*Test case\nT" := by rfl
  have hresult : (lintFile smallTree "a.robot"
      { rules := Registry.tuned { mostTestSteps := -1 } Registry.standingSeverity }).result =
        .error (.fault .noItem) := by decide +kernel
  obtain ⟨document, hread, hiff, -, -⟩ := lintFile_gives_up hcontent hsource
    { rules := Registry.tuned { mostTestSteps := -1 } Registry.standingSeverity } rfl rfl rfl
  obtain ⟨-, -, -, -, hok⟩ :=
    lintFile_gives_up hcontent hsource {} Registry.standing_eq_tuned rfl rfl
  exact ⟨⟨document, hread, hiff.mp ⟨_, hresult⟩⟩, hresult, hok (by decide) (by decide)⟩

end Session

end SuiteLint
