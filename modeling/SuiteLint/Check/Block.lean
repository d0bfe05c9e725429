import SuiteLint.Remark

/-!
# Checks on test cases and keywords

These checks look at one block. Those that ask for documentation or look at the
steps of a test case do not apply where tests are made from a template, since the
rows of a test case are data then; for this they are given the tables of the
document too.
-/

namespace SuiteLint

/-- What a check has to say about a test case of a document with the given tables,
unless its tests are made from a template. -/
def unlessTemplated (tables : List Table) (verdict : Verdict) : Verdict := do
  if ← isTemplated tables then return []
  verdict

/-- A remark for each step of the given name. -/
def stepsNamed (name message : Text) (block : Block) : List Remark :=
  (block.steps.filter (·.hasName name)).map fun step => { line := step.first, message }

/-- Whether a tag has a space or a tab in it. -/
def isSpacedTag (tag : Text) : Bool := tag.contains ' ' || tag.contains '\t'

namespace TestCheck

/-- What a check has to say about a test case of a document with the given tables. -/
def apply (tables : List Table) (block : Block) : TestCheck → Verdict
  | periodInName =>
    .ok (if block.name.contains '.' then
      [{ line := block.line, message := "'.' in testcase name '" ++ block.name ++ "'" }] else [])
  | tagWithSpaces =>
    .ok ((block.tags.filter isSpacedTag).map fun tag =>
      { line := block.line, message := "space not allowed in tag name: '" ++ tag ++ "'" })
  | documentation =>
    unlessTemplated tables <| .ok (if block.isDocumented then [] else
      [{ line := block.line + 1, message := "No testcase documentation" }])
  | fewSteps least =>
    let count := block.countedSteps.length
    unlessTemplated tables <| .ok (if count < least then
      [{ line := block.line,
         message := "Too few steps (" ++ Text.ofNat count ++ ") in test case" }] else [])
  | manySteps limit =>
    let steps := block.countedSteps
    unlessTemplated tables <|
      if steps.length ≤ limit then .ok []
      else do
        let surplus ← Position.get steps limit
        return [{
          line := surplus.first
          message := "Too many steps (" ++ Text.ofNat steps.length ++ ") in test case" }]
  | forLoop =>
    unlessTemplated tables <|
      .ok (stepsNamed ":for" "Violation of using for-loop in test case" block)
  | condition =>
    unlessTemplated tables <|
      .ok (stepsNamed "if" "Violation of using IF/ELSE in test case" block)
  | silent => .ok []
  | countTags =>
    .ok [{
      line := block.line, message := "tags " ++ Text.ofNat block.tags.length
      char := block.name.length }]

end TestCheck

namespace KeywordCheck

/-- What a check has to say about a keyword. -/
def apply (block : Block) : KeywordCheck → Verdict
  | documentation =>
    .ok (if block.isDocumented then [] else
      [{ line := block.line + 1, message := "No keyword documentation" }])
  | fewSteps least =>
    let count := block.countedSteps.length
    .ok (if count < least then
      [{ line := block.line,
         message := "Too few steps (" ++ Text.ofNat count ++ ") in keyword" }] else [])
  | silent => .ok []
  | stepLines =>
    .ok (block.steps.map fun step =>
      { line := step.first, message := "step with " ++ Text.ofNat step.cells.length ++ " cells"
        char := step.last })

end KeywordCheck

end SuiteLint
