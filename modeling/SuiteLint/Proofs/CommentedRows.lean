import Mathlib.Tactic
import SuiteLint.Proofs.InsertedRows
import SuiteLint.Proofs.TrailingComments

/-!
# Rows that are commented out

A row is commented out by a number sign before its first word, and it should then be as good
as not there. Where the number sign stands in the second cell, or further to the right, this is
so. The second cell is where the name of a setting is looked for, and neither a comment nor an
empty cell is such a name (`Row.not_bracket_of_isCommentedOut`).

But a number sign at the beginning of a line stands in the first cell. The row belongs to the
block all the same, it is a comment and no step, and its second cell is read as before. So tags
and documentation that are commented out in this way still count. The checks that look at
them, and no others, can be misled (`Check.IsMisledBy`), and they are misled exactly if the row
brings a tag or a documentation that changes what they say
(`Block.insertsComment_changes_report_iff`).
-/

namespace SuiteLint

/-! ### Brackets in small letters -/

namespace Text

/-- An opening bracket is the small form of itself only. -/
theorem eq_bracket_of_lowerChar {before after rest more : Text} {c : Char}
    (h : lowerChar before c after ++ rest = '[' :: more) : c = '[' := by
  have hofNat {n : Nat} (hn : Char.ofNat n = '[') : n = 91 :=
    Utf8.eq_toNat_of_ofNat (by decide) hn
  unfold lowerChar at h
  simp only at h
  split at h
  · have hhead := (List.cons.inj h).1
    split at hhead
    next hcapital =>
      have := hofNat hhead
      omega
    next => exact hhead
  · split at h
    · have := hofNat (List.cons.inj h).1
      split at this <;> omega
    · split at h
      · exact absurd (List.cons.inj h).1 (by decide)
      · split at h
        next run distance hrun =>
          -- no run of letters has small forms as early as the bracket
          have hruns : ∀ run ∈ loweringRuns, 92 ≤ (run.1.first : Int) + run.2 := by
            decide +kernel
          have hfirst : 92 ≤ (run.first : Int) + distance :=
            hruns _ (List.mem_of_find?_eq_some hrun)
          have hhas := List.find?_some hrun
          simp only [Run.has, Bool.and_eq_true, decide_eq_true_eq] at hhas
          have := hofNat (List.cons.inj h).1
          omega
        next => exact (List.cons.inj h).1

theorem head?_of_lower {text more : Text} (h : lower text = '[' :: more) :
    text.head? = some '[' := by
  cases text with
  | nil => cases h
  | cons c rest => exact congrArg some (eq_bracket_of_lowerChar h)

theorem head?_of_isRemark {text : Text} (h : isRemark text = true) : text.head? ≠ some '[' := by
  intro hhead
  obtain ⟨rest, rfl⟩ := List.head?_eq_some_iff.mp hhead
  cases h

end Text

/-! ### What a commented row can be taken for -/

/-- Whether the first cell of a row that is not empty is a comment. -/
def Row.isCommentedOut (row : Row) : Bool := (Statement.ofRow row).beginsAsComment

/-- Whether a statement documents the block that it is in. -/
def Statement.documents (s : Statement) : Bool := s.isSetting && s.sets "[documentation]"

theorem Statement.head?_of_isBracketed {cell : Text} (h : isBracketed cell = true) :
    cell.head? = some '[' := by
  unfold isBracketed at h
  split at h
  · rfl
  · cases h

namespace Row

variable {row : Row}

theorem isCommentedOut_eq (row : Row) :
    row.isCommentedOut = ((row.cells.dropWhile List.isEmpty).head?.any Text.isRemark) := by
  rw [isCommentedOut, Statement.beginsAsComment, Statement.content, Statement.ofRow]
  cases row.cells.dropWhile List.isEmpty <;> rfl

theorem opens_of_isCommentedOut (h : row.isCommentedOut = true) : row.Opens where
  anew := by
    rw [← Bool.not_eq_true]
    intro hcontinues
    obtain ⟨more, hcells⟩ := isContinuation_iff.mp hcontinues
    rw [isCommentedOut_eq, hcells] at h
    cases h
  cells := by
    intro hcells
    rw [isCommentedOut_eq, hcells] at h
    cases h

/-- Behind an empty cell, what is commented out does not begin with a bracket. -/
theorem not_bracket_of_isCommentedOut (h : row.isCommentedOut = true) {second : Text}
    {others : List Text} (hcells : row.cells = [] :: second :: others) :
    second.head? ≠ some '[' := by
  cases second with
  | nil => exact nofun
  | cons c rest =>
    rw [isCommentedOut_eq, hcells] at h
    exact Text.head?_of_isRemark h

/-- Behind an empty cell, what is commented out is not taken for a setting. -/
theorem not_setting_of_isCommentedOut (h : row.isCommentedOut = true)
    (hhead : row.cells.head? = some []) :
    (Statement.ofRow row).isSetting = false ∧ (Statement.ofRow row).tags = [] := by
  obtain ⟨others, hcells⟩ := List.head?_eq_some_iff.mp hhead
  cases others with
  | nil =>
    rw [Statement.isSetting, Statement.tags, Statement.sets, Statement.hasName, Statement.ofRow,
      hcells]
    exact ⟨rfl, rfl⟩
  | cons second others =>
    have hsecond := not_bracket_of_isCommentedOut h hcells
    rw [Statement.isSetting, Statement.tags, Statement.sets, Statement.hasName, Statement.ofRow,
      hcells]
    refine ⟨?_, if_neg fun hsets => ?_⟩
    · rw [← Bool.not_eq_true]
      exact fun hbracketed => hsecond (Statement.head?_of_isBracketed hbracketed)
    · have hname := beq_iff_eq.mp (Bool.and_eq_true_iff.mp hsets).1
      exact hsecond (Text.head?_of_lower hname)

end Row

/-! ### A block with a commented row -/

namespace Block.Inserts

variable {block other : Block} {row : Row}

/-- A commented row is no step. -/
theorem steps_eq (h : block.Inserts row other) (hrow : row.isCommentedOut = true) :
    other.steps = block.steps := by
  refine h.filter_statements (Row.opens_of_isCommentedOut hrow) ?_
  have hbegins : (Statement.ofRow row).beginsAsComment = true := hrow
  rw [Statement.isStep, Statement.isComment_eq, hbegins]
  rfl

theorem isDocumented_eq (h : block.Inserts row other) (hrow : row.Opens) :
    other.isDocumented = (block.isDocumented || (Statement.ofRow row).documents) := by
  obtain ⟨earlier, later, hblock, hother⟩ := h.statements_eq hrow
  have hany (block : Block) : block.isDocumented = block.statements.any Statement.documents := by
    rw [isDocumented, settings, List.any_filter]
    rfl
  rw [hany, hany, hblock, hother, List.any_append, List.any_append, List.any_cons, Bool.or_assoc,
    Bool.or_comm (later.any _)]

/-- The tags with a space or tab in them are the same if the row has none to add. -/
theorem spacedTags_eq_iff (h : block.Inserts row other) (hrow : row.Opens) {α : Type}
    (f : Text → α) :
    (other.tags.filter isSpacedTag).map f = (block.tags.filter isSpacedTag).map f ↔
      ∀ tag ∈ (Statement.ofRow row).tags, isSpacedTag tag = false := by
  obtain ⟨earlier, later, hblock, hother⟩ := h.tags_eq hrow
  rw [hblock, hother]
  simp only [List.filter_append, List.map_append, List.append_cancel_left_eq]
  rw [List.append_left_eq_self, List.map_eq_nil_iff, List.filter_eq_nil_iff]
  simp only [Bool.not_eq_true]

theorem length_tags (h : block.Inserts row other) (hrow : row.Opens) :
    other.tags.length = block.tags.length + (Statement.ofRow row).tags.length := by
  obtain ⟨earlier, later, hblock, hother⟩ := h.tags_eq hrow
  rw [hblock, hother]
  simp only [List.length_append]
  omega

end Block.Inserts

theorem Text.ofNat_injective {m n : Nat} (h : ofNat m = ofNat n) : m = n := by
  have hdigits (n : Nat) : Nat.ofDigitChars 10 (ofNat n) 0 = n :=
    Nat.ofDigitChars_toDigits (by decide) (by decide)
  rw [← hdigits m, h, hdigits]

/-- Unless tests are made from a template, what is said is what there is to say. -/
theorem unlessTemplated_eq_iff {tables : List Table} {verdict verdict' : Verdict} :
    unlessTemplated tables verdict = unlessTemplated tables verdict' ↔
      (isTemplated tables = .ok false → verdict = verdict') := by
  unfold unlessTemplated
  rcases isTemplated tables with fault | _ | _
  · exact iff_of_true rfl nofun
  · exact ⟨fun h _ => h, fun h => h rfl⟩
  · exact iff_of_true rfl nofun

/-- A check says something else about a block when a statement is added to it that is a comment,
since the tags of the statement are counted, or one of them has a space in it, or there is no
other documentation. On a keyword, checks on test cases do not come so far. -/
def Check.IsMisledBy (tables : List Table) (block : Block) (s : Statement) : Check → Prop
  | test .tagWithSpaces => block.kind = .test ∧ ∃ tag ∈ s.tags, isSpacedTag tag = true
  | test .countTags => block.kind = .test ∧ s.tags ≠ []
  | test .documentation =>
    block.kind = .test ∧ isTemplated tables = .ok false ∧ block.isDocumented = false ∧
      s.documents = true
  | keyword .documentation => block.isDocumented = false ∧ s.documents = true
  | _ => False

section Misled

variable {block other : Block} {row : Row}

theorem TestCheck.apply_inserts_iff (check : TestCheck) {tables tables' : List Table}
    (htables : isTemplated tables' = isTemplated tables) (h : block.Inserts row other)
    (hrow : row.isCommentedOut = true) (hkind : block.kind = .test) :
    check.apply tables' other = check.apply tables block ↔
      ¬(Check.test check).IsMisledBy tables block (Statement.ofRow row) := by
  have hopens := Row.opens_of_isCommentedOut hrow
  have hsteps := h.steps_eq hrow
  have hcounted : other.countedSteps = block.countedSteps := congrArg (List.filter _) hsteps
  cases check with
  | periodInName => exact iff_of_true (by rw [apply, h.name_eq, h.line_eq, apply]) not_false
  | tagWithSpaces =>
    rw [apply, apply, h.line_eq, Except.ok.injEq, h.spacedTags_eq_iff hopens, Check.IsMisledBy]
    simp only [hkind, true_and, not_exists, not_and, Bool.not_eq_true]
  | documentation =>
    rw [apply, apply, unlessTemplated_congr htables, unlessTemplated_eq_iff, h.line_eq,
      h.isDocumented_eq hopens, Check.IsMisledBy]
    cases block.isDocumented <;> cases (Statement.ofRow row).documents <;> simp [hkind]
  | fewSteps least =>
    refine iff_of_true ?_ not_false
    rw [apply, unlessTemplated_congr htables, hcounted, h.line_eq, apply]
  | manySteps limit =>
    refine iff_of_true ?_ not_false
    rw [apply, unlessTemplated_congr htables, hcounted, apply]
  | forLoop | condition =>
    refine iff_of_true ?_ not_false
    rw [apply, unlessTemplated_congr htables, stepsNamed, hsteps, apply, stepsNamed]
  | silent => exact iff_of_true rfl not_false
  | countTags =>
    rw [apply, apply, h.line_eq, h.name_eq, h.length_tags hopens, Check.IsMisledBy, not_and,
      not_not]
    refine Iff.trans ?_ ⟨fun hnone _ => hnone, fun hnone => hnone hkind⟩
    constructor
    · intro hsame
      simp only [Except.ok.injEq, List.cons.injEq, Remark.mk.injEq, and_true, true_and] at hsame
      have hlength := Text.ofNat_injective (List.append_cancel_left hsame)
      exact List.eq_nil_of_length_eq_zero (Nat.left_eq_add.mp hlength.symm)
    · intro hnone
      rw [hnone]
      rfl

/-- On a keyword, a check on test cases sees the name at most. -/
theorem TestCheck.onKeyword_inserts (check : TestCheck) (h : block.Inserts row other) :
    check.onKeyword other = check.onKeyword block := by
  cases check with
  | periodInName =>
    change apply [] other periodInName = apply [] block periodInName
    rw [apply, h.name_eq, h.line_eq, apply]
  | silent => rfl
  | tagWithSpaces | documentation | fewSteps | manySteps | forLoop | condition | countTags =>
    rw [onKeyword, h.kind_eq]
    rfl

theorem KeywordCheck.apply_inserts_iff (check : KeywordCheck) (tables : List Table)
    (h : block.Inserts row other) (hrow : row.isCommentedOut = true) :
    check.apply other = check.apply block ↔
      ¬(Check.keyword check).IsMisledBy tables block (Statement.ofRow row) := by
  have hsteps := h.steps_eq hrow
  have hcounted : other.countedSteps = block.countedSteps := congrArg (List.filter _) hsteps
  cases check with
  | documentation =>
    rw [apply, apply, h.line_eq, h.isDocumented_eq (Row.opens_of_isCommentedOut hrow),
      Check.IsMisledBy]
    cases block.isDocumented <;> cases (Statement.ofRow row).documents <;> simp
  | fewSteps least => exact iff_of_true (by rw [apply, hcounted, h.line_eq, apply]) not_false
  | silent => exact iff_of_true rfl not_false
  | stepLines => exact iff_of_true (by rw [apply, hsteps, apply]) not_false

end Misled

namespace Block

/-- **What a row that is commented out does to a block.** It is no step, so the steps stay the
same. A check says the same about the block as before unless it is misled by tags or a
documentation in the row, and then it says something else. If the row begins with an empty
cell, it is taken for no setting and misleads no check. -/
theorem insertsComment_changes_report_iff {block other : Block} {row : Row}
    (h : block.Inserts row other) (hrow : row.isCommentedOut = true) (gap : Document.Gap) :
    let tables := (gap.put block).tables
    let added := Statement.ofRow row
    other.steps = block.steps ∧
    (∀ check : Check, check.onBlock (gap.put other) other = check.onBlock (gap.put block) block ↔
      ¬check.IsMisledBy tables block added) ∧
    (∀ rule : Rule, rule.scope = .test ∨ rule.scope = .keyword →
      ¬rule.check.IsMisledBy tables block added →
      rule.inspect (gap.put other) = rule.inspect (gap.put block)) ∧
    (row.cells.head? = some [] → other.settings = block.settings ∧ other.tags = block.tags ∧
      ∀ check : Check, ¬check.IsMisledBy tables block added) := by
  intro tables added
  have hopens := Row.opens_of_isCommentedOut hrow
  have hcheck (check : Check) :
      check.onBlock (gap.put other) other = check.onBlock (gap.put block) block ↔
        ¬check.IsMisledBy tables block added := by
    cases check with
    | test check =>
      simp only [Check.onBlock, h.kind_eq]
      cases hkind : block.kind with
      | test => exact check.apply_inserts_iff (gap.isTemplated_put block other) h hrow hkind
      | keyword =>
        refine iff_of_true (check.onKeyword_inserts h) ?_
        cases check <;> simp [Check.IsMisledBy, hkind]
    | keyword check => exact check.apply_inserts_iff tables h hrow
    | suite | resource | general =>
      refine iff_of_true ?_ not_false
      simp only [Check.onBlock, h.kind_eq, h.name_eq]
  refine ⟨h.steps_eq hrow, hcheck, fun rule hrule hmisled => ?_, fun hhead => ?_⟩
  · exact Rule.inspect_put_of_onBlock hrule gap ((hcheck rule.check).mpr hmisled)
  · obtain ⟨hsetting, htags⟩ := Row.not_setting_of_isCommentedOut hrow hhead
    refine ⟨h.filter_statements hopens hsetting, h.tags_eq_of_nil hopens htags, ?_⟩
    have hdocuments : added.documents = false := by
      rw [Statement.documents, hsetting]
      rfl
    intro check
    unfold Check.IsMisledBy
    split
    · simp [added, htags]
    · simp [added, htags]
    · simp [hdocuments]
    · simp [hdocuments]
    · exact not_false

/-- A test case without tags and documentation. -/
def plain : Block where
  kind := .test
  line := 2
  name := "T"
  rows := [⟨4, [], [[], "log", "x"]⟩]

/-- The test case with a row put in before its step. -/
def plainBelow (row : Row) : Block := { plain with rows := [row, ⟨4, [], [[], "log", "x"]⟩] }

/-- A tag is reported that stands behind a number sign at the beginning of the line, but not if
the number sign stands in the second cell. -/
theorem insertsComment_changes_report_iff_plain :
    let gap : Document.Gap :=
      ⟨⟨"a", "/a.robot", none, []⟩, [], { kind := .blocks .test }, [], [], []⟩
    let spacedTag : Rule := .ofCheck (.test .tagWithSpaces) .error
    let flush : Row := ⟨3, [], ["#", "[Tags]", "a b"]⟩
    let indented : Row := ⟨3, [], [[], "# [Tags]", "a b"]⟩
    flush.isCommentedOut = true ∧ indented.isCommentedOut = true ∧
      plain.Inserts flush (plainBelow flush) ∧ plain.Inserts indented (plainBelow indented) ∧
      (spacedTag.inspect (gap.put plain)).reports = [] ∧
      spacedTag.check.onBlock (gap.put (plainBelow flush)) (plainBelow flush) ≠
        spacedTag.check.onBlock (gap.put plain) plain ∧
      (spacedTag.inspect (gap.put (plainBelow flush))).reports.map Report.message =
        ["space not allowed in tag name: 'a b'"] ∧
      spacedTag.inspect (gap.put (plainBelow indented)) = spacedTag.inspect (gap.put plain) := by
  intro gap spacedTag flush indented
  have hinserts (row : Row) : plain.Inserts row (plainBelow row) :=
    .between [] _ rfl (Row.beginAnew_cons rfl _)
  obtain ⟨-, hflush, -, -⟩ :=
    insertsComment_changes_report_iff (hinserts flush) (by decide +kernel) gap
  obtain ⟨-, -, hindented, hnone⟩ :=
    insertsComment_changes_report_iff (hinserts indented) (by decide +kernel) gap
  refine ⟨by decide +kernel, by decide +kernel, hinserts flush, hinserts indented,
    by decide +kernel, fun hsame => (hflush spacedTag.check).mp hsame ?_, by decide +kernel,
    hindented spacedTag (.inl rfl) ((hnone rfl).2.2 _)⟩
  exact ⟨rfl, "a b", by decide +kernel, by decide⟩

end Block

end SuiteLint
