import Mathlib.Tactic
import SuiteLint.Check.Apply
import SuiteLint.Proofs.Safety
import SuiteLint.Proofs.Separators

/-!
# Blocks that look alike

The checks on a test case or keyword see little of it: its name and line, its tags, its
settings, and the steps that do not come from blank lines; and of a statement they see the
cells and the line it begins on, but not the line it ends on. Blocks that agree in this are
*alike* (`Block.Alike`).

If one block in a document is replaced by another one that is alike, the rules on test cases
and keywords find the same in the document (`Rule.inspect_put`). They may look at one block at
a time only, and besides it at nothing but whether tests are made from a template, which is
said in another table. The one check that does see where steps end belongs to a rule pack
that reports what it sees.
-/

namespace SuiteLint

/-! ### Without the last line -/

/-- The statement as if it ended on the line it begins on. -/
def Statement.unended (s : Statement) : Statement := { s with last := s.first }

/-- Two blocks look alike to the checks on blocks. -/
structure Block.Alike (block other : Block) : Prop where
  /-- They are of the same kind. -/
  kind : other.kind = block.kind
  /-- Their names stand on the same line. -/
  line : other.line = block.line
  /-- They have the same name. -/
  name : other.name = block.name
  /-- They have the same tags. -/
  tags : other.tags = block.tags
  /-- They have the same settings, but for the lines they end on. -/
  settings : other.settings.map Statement.unended = block.settings.map Statement.unended
  /-- They have the same steps, but for blank ones and for the lines they end on. -/
  steps : other.countedSteps.map Statement.unended = block.countedSteps.map Statement.unended

namespace Block

theorem Alike.refl (block : Block) : block.Alike block :=
  ⟨rfl, rfl, rfl, rfl, rfl, rfl⟩

variable {block other : Block}

theorem Alike.isDocumented_eq (h : block.Alike other) :
    other.isDocumented = block.isDocumented := by
  have hsets : (·.sets "[documentation]") ∘ Statement.unended = (·.sets "[documentation]") := rfl
  have hmap (block : Block) : block.isDocumented =
      (block.settings.map Statement.unended).any (·.sets "[documentation]") := by
    rw [List.any_map, hsets, isDocumented]
  rw [hmap, h.settings, hmap block]

theorem Alike.length_countedSteps_eq (h : block.Alike other) :
    other.countedSteps.length = block.countedSteps.length := by
  simpa using congrArg List.length h.steps

/-- A blank step has no name. -/
theorem stepsNamed_eq (name message : Text) (block : Block) :
    stepsNamed name message block = (block.countedSteps.filter (·.hasName name)).map fun step =>
      { line := step.first, message } := by
  have hblank (s : Statement) : (s.hasName name && !s.isBlank) = s.hasName name := by
    cases hblank : s.isBlank with
    | false => simp
    | true =>
      rw [Statement.isBlank, beq_iff_eq] at hblank
      simp [Statement.hasName, hblank]
  rw [stepsNamed, countedSteps, List.filter_filter]
  simp only [hblank]

theorem Alike.stepsNamed_eq (h : block.Alike other) (name message : Text) :
    stepsNamed name message other = stepsNamed name message block := by
  have hname : (·.hasName name) ∘ Statement.unended = (·.hasName name) := rfl
  have hmap (block : Block) : stepsNamed name message block =
      ((block.countedSteps.map Statement.unended).filter (·.hasName name)).map fun step =>
        { line := step.first, message } := by
    rw [List.filter_map, hname, List.map_map, Block.stepsNamed_eq]
    rfl
  rw [hmap, h.steps, hmap block]

theorem Alike.limitVerdict_eq (h : block.Alike other) (limit : Int) (message : Text) :
    limitVerdict other.countedSteps limit (fun step => { line := step.first, message }) =
      limitVerdict block.countedSteps limit fun step => { line := step.first, message } := by
  have hmap (block : Block) :
      limitVerdict block.countedSteps limit (fun step => { line := step.first, message }) =
        limitVerdict (block.countedSteps.map Statement.unended) limit fun step =>
          { line := step.first, message } := by
    rw [limitVerdict, limitVerdict, List.length_map, Position.get_map]
    cases Position.get block.countedSteps limit <;> rfl
  rw [hmap, h.steps, hmap block]

end Block

/-! ### Checks on blocks that look alike -/

theorem unlessTemplated_congr {tables tables' : List Table}
    (h : isTemplated tables' = isTemplated tables) (verdict : Verdict) :
    unlessTemplated tables' verdict = unlessTemplated tables verdict := by
  rw [unlessTemplated, h, unlessTemplated]

/-- The checks on test cases say the same about test cases that look alike. -/
theorem TestCheck.apply_alike (check : TestCheck) {tables tables' : List Table}
    (htables : isTemplated tables' = isTemplated tables) {block other : Block}
    (h : block.Alike other) : check.apply tables' other = check.apply tables block := by
  cases check with
  | periodInName => rw [apply, h.name, h.line, apply]
  | tagWithSpaces => rw [apply, h.tags, h.line, apply]
  | documentation =>
    rw [apply, unlessTemplated_congr htables, h.isDocumented_eq, h.line, apply]
  | fewSteps least =>
    rw [apply, unlessTemplated_congr htables, h.length_countedSteps_eq, h.line, apply]
  | manySteps limit =>
    have hlimit (tables : List Table) (block : Block) :
        (manySteps limit).apply tables block =
          unlessTemplated tables (limitVerdict block.countedSteps limit fun step =>
            { line := step.first
              message := "Too many steps (" ++ Text.ofNat block.countedSteps.length ++
                ") in test case" }) := rfl
    rw [hlimit, hlimit, unlessTemplated_congr htables, h.length_countedSteps_eq, h.limitVerdict_eq]
  | forLoop | condition =>
    rw [apply, unlessTemplated_congr htables, h.stepsNamed_eq, apply]
  | silent => rfl
  | countTags => rw [apply, h.tags, h.line, h.name, apply]

/-- So do the checks on keywords, if they do not look at the lines that steps end on. -/
theorem KeywordCheck.apply_alike {check : KeywordCheck} (hcheck : check ≠ .stepLines)
    {block other : Block} (h : block.Alike other) : check.apply other = check.apply block := by
  cases check with
  | documentation => rw [apply, h.isDocumented_eq, h.line, apply]
  | fewSteps least => rw [apply, h.length_countedSteps_eq, h.line, apply]
  | silent => rfl
  | stepLines => exact absurd rfl hcheck

namespace Check

variable {document document' : Document}

/-- Of the document that a block is in, checks see only whether tests are made from a
template. -/
theorem onBlock_congr (check : Check)
    (htables : isTemplated document'.tables = isTemplated document.tables) (block : Block) :
    check.onBlock document' block = check.onBlock document block := by
  cases check with
  | test check =>
    simp only [onBlock]
    split
    · exact check.apply_alike htables (.refl block)
    · rfl
  | keyword | suite | resource | general => rfl

/-- **What a check says about blocks that look alike is the same**, if it does not look at the
lines that steps end on, whatever it was made for. -/
theorem onBlock_alike {check : Check} (hcheck : check ≠ .keyword .stepLines)
    (htables : isTemplated document'.tables = isTemplated document.tables) {block other : Block}
    (h : block.Alike other) : check.onBlock document' other = check.onBlock document block := by
  cases check with
  | test check =>
    simp only [onBlock, h.kind]
    cases block.kind with
    | test => exact check.apply_alike htables h
    | keyword =>
      have hnone : check.apply [] other = check.apply [] block := check.apply_alike rfl h
      simp only [TestCheck.onKeyword, h.kind, hnone]
  | keyword check =>
    exact KeywordCheck.apply_alike (fun hlines => hcheck (congrArg Check.keyword hlines)) h
  | suite check => simp only [onBlock, h.kind, h.name]
  | resource check => simp only [onBlock, h.name]
  | general check => simp only [onBlock, h.kind]

end Check

/-! ### A block in a document -/

/-- A document with a gap among the blocks of one of its tables. -/
structure Document.Gap where
  /-- The document, whatever its tables are. -/
  frame : Document
  /-- The tables before the one with the gap. -/
  earlier : List Table
  /-- The table with the gap, whatever its blocks are. -/
  table : Table
  /-- The blocks before the gap. -/
  before : List Block
  /-- The blocks after the gap. -/
  after : List Block
  /-- The tables after the one with the gap. -/
  later : List Table

namespace Document.Gap

/-- The document with a block put into the gap. -/
def put (gap : Gap) (block : Block) : Document :=
  { gap.frame with
    tables := gap.earlier ++
      { gap.table with blocks := gap.before ++ block :: gap.after } :: gap.later }

variable (gap : Gap)

/-- A block in the gap is one of the blocks of a kind, or it does not matter to them. -/
theorem blocks_put (kind : BlockKind) :
    (∃ before after, ∀ block, (gap.put block).blocks kind = before ++ block :: after) ∨
      ∃ blocks, ∀ block, (gap.put block).blocks kind = blocks := by
  have hblocks (block : Block) : (gap.put block).blocks kind =
      (gap.earlier.filter (Table.holds kind)).flatMap Table.blocks ++
        (if gap.table.holds kind then gap.before ++ block :: gap.after else []) ++
        (gap.later.filter (Table.holds kind)).flatMap Table.blocks := by
    have hholds : Table.holds kind { gap.table with blocks := gap.before ++ block :: gap.after } =
        gap.table.holds kind := rfl
    rw [put, blocks, List.filter_append, List.filter_cons, hholds, List.flatMap_append]
    split <;> simp
  by_cases h : gap.table.holds kind = true
  · refine .inl ⟨(gap.earlier.filter (Table.holds kind)).flatMap Table.blocks ++ gap.before,
      gap.after ++ (gap.later.filter (Table.holds kind)).flatMap Table.blocks, fun block => ?_⟩
    rw [hblocks, if_pos h]
    simp only [List.append_assoc, List.cons_append]
  · exact .inr ⟨_, fun block => by rw [hblocks, if_neg h]⟩

/-- The rows of other tables do not depend on what stands in the gap. -/
theorem rows_put {p : Table → Bool} (hp : ∀ table blocks, p { table with blocks } = p table)
    (block other : Block) :
    ((gap.put other).tables.filter p).flatMap Table.rows =
      ((gap.put block).tables.filter p).flatMap Table.rows := by
  simp only [put, List.filter_append, List.filter_cons, hp, List.flatMap_append]
  split <;> rfl

theorem isTemplated_put (block other : Block) :
    isTemplated (gap.put other).tables = isTemplated (gap.put block).tables := by
  rw [isTemplated, hasSetting, gap.rows_put (fun _ _ => rfl) block, isTemplated, hasSetting]

theorem globals_put (block other : Block) : (gap.put other).globals = (gap.put block).globals := by
  rw [globals, gap.rows_put (fun _ _ => rfl) block, globals]

variable {block other : Block}

/-- What is said about each block of a kind does not depend on which of two blocks stands in the
gap, if the same is said about both. -/
theorem map_blocks_put {α : Type} (kind : BlockKind) {f g : Block → α}
    (hothers : ∀ block, g block = f block) (h : g other = f block) :
    ((gap.put other).blocks kind).map g = ((gap.put block).blocks kind).map f := by
  obtain rfl : g = f := funext hothers
  rcases gap.blocks_put kind with ⟨before, after, hblocks⟩ | ⟨blocks, hblocks⟩
  · rw [hblocks, hblocks, List.map_append, List.map_append, List.map_cons, List.map_cons, h]
  · rw [hblocks, hblocks]

end Document.Gap

/-- A rule on test cases or keywords finds the same in a document if it says the same about the
block in the gap. -/
theorem Rule.inspect_put_of_onBlock {rule : Rule}
    (hrule : rule.scope = .test ∨ rule.scope = .keyword) (gap : Document.Gap)
    {block other : Block}
    (h : rule.check.onBlock (gap.put other) other = rule.check.onBlock (gap.put block) block) :
    rule.inspect (gap.put other) = rule.inspect (gap.put block) := by
  have hothers (block' : Block) : rule.check.onBlock (gap.put other) block' =
      rule.check.onBlock (gap.put block) block' :=
    rule.check.onBlock_congr (gap.isTemplated_put block other) block'
  have hverdicts : rule.verdicts (gap.put other) = rule.verdicts (gap.put block) := by
    rcases hrule with hscope | hscope
    · simp only [verdicts, hscope]
      exact gap.map_blocks_put .test hothers h
    · simp only [verdicts, hscope]
      exact gap.map_blocks_put .keyword hothers h
  have hpath : (gap.put other).path = (gap.put block).path := rfl
  rw [inspect, hverdicts, hpath, inspect]

/-- A rule is on test cases or keywords, and does not look at the lines that steps end on. -/
def Rule.IsOnBlocks (rule : Rule) : Prop :=
  (rule.scope = .test ∨ rule.scope = .keyword) ∧ rule.check ≠ .keyword .stepLines

/-- **A block may be replaced by one that looks alike**: a rule on test cases or keywords finds
the same in the document. -/
theorem Rule.inspect_put {rule : Rule} (hrule : rule.IsOnBlocks) (gap : Document.Gap)
    {block other : Block} (h : block.Alike other) :
    rule.inspect (gap.put other) = rule.inspect (gap.put block) :=
  inspect_put_of_onBlock hrule.1 gap
    (Check.onBlock_alike hrule.2 (gap.isTemplated_put block other) h)

end SuiteLint
