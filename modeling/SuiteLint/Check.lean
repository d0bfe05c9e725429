import SuiteLint.Text

/-!
# Checks

A check looks for one kind of flaw. What it looks at is its *scope*: a suite (a
file with test cases), a resource file, a test case, a keyword, or any file. There
is one type of checks for each scope, so that what a check finds can be defined by
what it is given. A check that can be configured carries the values it is
configured with.

Besides the standing checks there are a few that a rule pack can add. Most of them
report what they see rather than a flaw.
-/

namespace SuiteLint

/-- What a check is applied to. -/
inductive Scope
  /-- A file with test cases, as a whole. -/
  | suite
  /-- A file without test cases, as a whole. -/
  | resource
  /-- One test case. -/
  | test
  /-- One keyword. -/
  | keyword
  /-- Any file, as a whole. -/
  | general
  deriving DecidableEq, Repr

/-- Checks on a file with test cases. -/
inductive SuiteCheck
  /-- No period in the name of the suite. -/
  | periodInName
  /-- No table with an unknown name. -/
  | invalidTable
  /-- No two keywords with the same name. -/
  | duplicateKeywords
  /-- No two test cases with the same name. -/
  | duplicateTests
  /-- The suite is documented. -/
  | documentation
  /-- At most `limit` test cases. -/
  | testCount (limit : Int)
  /-- Finds nothing. -/
  | silent
  /-- Reports the two values it was configured with. -/
  | echoPair (values : Option (Text × Text))
  deriving DecidableEq, Repr

/-- Checks on a file without test cases. -/
inductive ResourceCheck
  /-- Reports the value it was configured with. -/
  | echoValue (value : Option Text)
  /-- Reports the name of the file. -/
  | echoName
  deriving DecidableEq, Repr

/-- Checks on a test case. -/
inductive TestCheck
  /-- No period in the name of the test case. -/
  | periodInName
  /-- No tag with a space or a tab in it. -/
  | tagWithSpaces
  /-- The test case is documented. -/
  | documentation
  /-- At least `least` steps. -/
  | fewSteps (least : Int)
  /-- At most `limit` steps. -/
  | manySteps (limit : Int)
  /-- No loop among the steps. -/
  | forLoop
  /-- No condition among the steps. -/
  | condition
  /-- Finds nothing. -/
  | silent
  /-- Reports the number of tags. -/
  | countTags
  deriving DecidableEq, Repr

/-- Checks on a keyword. -/
inductive KeywordCheck
  /-- The keyword is documented. -/
  | documentation
  /-- At least `least` steps. -/
  | fewSteps (least : Int)
  /-- Finds nothing. -/
  | silent
  /-- Reports every step with its lines. -/
  | stepLines
  deriving DecidableEq, Repr

/-- Checks on any file. -/
inductive GeneralCheck
  /-- No line of more than `limit` characters. -/
  | lineLength (limit : Int)
  /-- At most `limit` blank lines at the end. -/
  | blankEnd (limit : Int)
  /-- At most `limit` lines. -/
  | fileLength (limit : Int)
  /-- Global variables are in capital letters. -/
  | variableCase
  /-- Finds nothing. -/
  | silent
  /-- Reports the kind of the file. -/
  | echoKind
  /-- Reports the kind of the file, in other words. -/
  | echoKindBriefly
  deriving DecidableEq, Repr

/-- A check of any scope. -/
inductive Check
  /-- A check on a file with test cases. -/
  | suite (check : SuiteCheck)
  /-- A check on a file without test cases. -/
  | resource (check : ResourceCheck)
  /-- A check on a test case. -/
  | test (check : TestCheck)
  /-- A check on a keyword. -/
  | keyword (check : KeywordCheck)
  /-- A check on any file. -/
  | general (check : GeneralCheck)
  deriving DecidableEq, Repr

namespace Check

/-- What a check is applied to. -/
def scope : Check → Scope
  | suite _ => .suite
  | resource _ => .resource
  | test _ => .test
  | keyword _ => .keyword
  | general _ => .general

end Check

/-! ### Names

A check keeps its name whatever it is configured with. -/

/-- The name of a check. -/
def SuiteCheck.name : SuiteCheck → Text
  | periodInName => "PeriodInSuiteName"
  | invalidTable => "InvalidTable"
  | duplicateKeywords => "DuplicateKeywordNames"
  | duplicateTests => "DuplicateTestNames"
  | documentation => "RequireSuiteDocumentation"
  | testCount _ => "TooManyTestCases"
  | silent => "CustomSuiteRule"
  | echoPair _ => "AaaSuite"

@[inherit_doc SuiteCheck.name]
def ResourceCheck.name : ResourceCheck → Text
  | echoValue _ => "Issue30"
  | echoName => "OtherSeverity"

@[inherit_doc SuiteCheck.name]
def TestCheck.name : TestCheck → Text
  | periodInName => "PeriodInTestName"
  | tagWithSpaces => "TagWithSpaces"
  | documentation => "RequireTestDocumentation"
  | fewSteps _ => "TooFewTestSteps"
  | manySteps _ => "TooManyTestSteps"
  | forLoop => "ForLoopNotAllowedInTestCase"
  | condition => "IfElseNotAllowedInTestCase"
  | silent => "CustomTestRule"
  | countTags => "CountTags"

@[inherit_doc SuiteCheck.name]
def KeywordCheck.name : KeywordCheck → Text
  | documentation => "RequireKeywordDocumentation"
  | fewSteps _ => "TooFewKeywordSteps"
  | silent => "CustomKeywordRule"
  | stepLines => "StepLines"

@[inherit_doc SuiteCheck.name]
def GeneralCheck.name : GeneralCheck → Text
  | lineLength _ => "LineTooLong"
  | blankEnd _ => "TrailingBlankLines"
  | fileLength _ => "FileTooLong"
  | variableCase => "GlobalVariableIsNotAllUpperCase"
  | silent => "CustomGeneralRule"
  | echoKind => "Issue31"
  | echoKindBriefly => "IgnoredByDefault"

@[inherit_doc SuiteCheck.name]
def Check.name : Check → Text
  | suite c => c.name
  | resource c => c.name
  | test c => c.name
  | keyword c => c.name
  | general c => c.name

end SuiteLint
