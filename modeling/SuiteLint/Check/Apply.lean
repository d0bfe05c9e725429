import SuiteLint.Check.Block
import SuiteLint.Check.General
import SuiteLint.Check.Suite

/-!
# Applying rules

A check is made for the objects of one scope: one on test cases for a test case, one on
keywords for a keyword, and any other for a document. But a rule can come to be listed in
a scope that its check was not made for (see `SuiteLint.Registry`), and then it is applied
to what is there. A check only ever asks an object for parts of it: if it has them all,
the check does its work, and if not, it ends in a fault at the first one that is missing.
A test case has all that checks on keywords ask for, and everything has a name.

A rule can also be applied to a file on its own: to every object of its scope, whether or
not the file is a suite. What was reported before a fault is kept.

Given a folder, almost every rule ends in a fault, since a folder has none of what
rules look at. It does have a name.
-/

namespace SuiteLint

/-- Reports, and the fault that ended them, if any. -/
structure Findings where
  /-- What was reported. -/
  reports : List Report
  /-- Why it ended early. -/
  fault : Option Fault
  deriving DecidableEq, Repr

/-- The remarks of verdicts up to the first fault. -/
def collect : List Verdict → List Remark × Option Fault
  | [] => ([], none)
  | .error fault :: _ => ([], some fault)
  | .ok remarks :: verdicts =>
    let (others, fault) := collect verdicts
    (remarks ++ others, fault)

/-! ### Objects that a check was not made for -/

/-- A document of which nothing is known but its name. -/
def Document.named (name : Text) : Document := ⟨name, [], none, []⟩

/-- The verdict of a check on something that is no file, of the given kind and name. -/
def SuiteCheck.onOther (kind name : Text) (check : SuiteCheck) : Verdict :=
  match check with
  | invalidTable | documentation | testCount _ => .error (.lacks kind "tables")
  | duplicateKeywords => .error (.lacks kind "keywords")
  | duplicateTests => .error (.lacks kind "testcases")
  | periodInName | silent | echoPair _ => check.apply (.named name)

@[inherit_doc SuiteCheck.onOther]
def GeneralCheck.onOther (kind : Text) : GeneralCheck → Verdict
  | lineLength _ | blankEnd _ | fileLength _ => .error (.lacks kind "raw_text")
  | variableCase => .error (.lacks kind "variables")
  | echoKind | echoKindBriefly => .error (.lacks kind "type")
  | silent => .ok []

namespace TestCheck

/-- What a check asks a test case for that nothing else has, if there is such a part. -/
def part? : TestCheck → Option Text
  | tagWithSpaces | countTags => some "tags"
  | documentation | fewSteps _ | manySteps _ | forLoop | condition => some "is_templated"
  | periodInName | silent => none

/-- The verdict of a check on a keyword. -/
def onKeyword (block : Block) (check : TestCheck) : Verdict :=
  match check.part? with
  | some part => .error (.lacks block.kind.name part)
  | none => check.apply [] block

/-- The verdict of a check on a document, which is on no line. -/
def onDocument (document : Document) (check : TestCheck) : Verdict :=
  match check.part? with
  | some part => .error (.lacks document.label part)
  | none =>
    if check = periodInName ∧ document.name.contains '.' then
      .error (.lacks document.label "linenumber")
    else .ok []

end TestCheck

/-- The verdict of a check on a document. -/
def KeywordCheck.onDocument (document : Document) : KeywordCheck → Verdict
  | documentation => .error (.lacks document.label "settings")
  | fewSteps _ | stepLines => .error (.lacks document.label "steps")
  | silent => .ok []

/-! ### All objects -/

/-- What a rule is applied to. -/
inductive Subject
  /-- A document as a whole. -/
  | document (document : Document)
  /-- A test case or keyword of a document. -/
  | block (document : Document) (block : Block)

namespace Check

/-- The verdict of a check on a document. -/
def onDocument (document : Document) : Check → Verdict
  | suite c => c.apply document
  | resource c => c.apply document
  | general c => c.apply document
  | test c => c.onDocument document
  | keyword c => c.onDocument document

/-- The verdict of a check on a block of a document. -/
def onBlock (document : Document) (block : Block) : Check → Verdict
  | test c =>
    match block.kind with
    | .test => c.apply document.tables block
    | .keyword => c.onKeyword block
  | keyword c => c.apply block
  | suite c => c.onOther block.kind.name block.name
  | resource c => c.apply (.named block.name)
  | general c => c.onOther block.kind.name

/-- The verdict of a check. -/
def on (check : Check) : Subject → Verdict
  | .document document => check.onDocument document
  | .block document block => check.onBlock document block

/-- The verdict of a check on a folder, of which test cases and keywords are asked for if
the check is on such. -/
def onFolder (name : Text) : Check → Verdict
  | suite c => c.onOther "SuiteFolder" name
  | resource c => c.apply (.named name)
  | general c => c.onOther "SuiteFolder"
  | test _ => .error (.lacks "SuiteFolder" "testcases")
  | keyword _ => .error (.lacks "SuiteFolder" "keywords")

end Check

namespace Rule

/-- The verdicts of a rule on the objects of a document that are in its scope. -/
def verdicts (document : Document) (rule : Rule) : List Verdict :=
  match rule.scope with
  | .test => document.testCases.map fun block => rule.check.onBlock document block
  | .keyword => document.keywords.map fun block => rule.check.onBlock document block
  | _ => [rule.check.onDocument document]

/-- The findings of verdicts about a file. -/
def findings (rule : Rule) (path : Text) (verdicts : List Verdict) : Findings :=
  let (remarks, fault) := collect verdicts
  { reports := remarks.map (rule.report path), fault := fault.map (Fault.ofRule rule.name) }

/-- What a rule finds in a document. -/
def inspect (rule : Rule) (document : Document) : Findings :=
  rule.findings document.path (rule.verdicts document)

/-- What a rule finds in a folder. -/
def inspectFolder (rule : Rule) (name path : Text) : Findings :=
  rule.findings path [rule.check.onFolder name]

end Rule

end SuiteLint
