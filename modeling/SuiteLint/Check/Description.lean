import SuiteLint.Check

/-!
# What the checks say of themselves

The descriptions are shown to the user, trimmed, when rules are listed or
described. A check of a rule pack may have none.
-/

namespace SuiteLint

/-- The page on good style that some descriptions refer to. -/
def handbook : Text :=
  "https://github.com/robotframework/HowToWriteGoodTestCases/blob/master/" ++
    "HowToWriteGoodTestCases.rst"

/-- The description of a check, as written. -/
def SuiteCheck.description : SuiteCheck → Text
  | periodInName => Text.joinWith "\n" [
      "Warn about periods in the suite name",
      "",
      "Since robot uses \".\" as a path separator, using a \".\" in a suite",
      "name can lead to ambiguity."]
  | invalidTable => "Verify that there are no invalid table headers"
  | duplicateKeywords =>
    "Verify that no keywords have a name of an existing keyword in the same file"
  | duplicateTests => "Verify that no tests have a name of an existing test in the same suite"
  | documentation => "Verify that a test suite has documentation"
  | testCount _ => Text.joinWith "\n" [
      "Should not have too many tests in one suite.",
      "",
      "The exception is if they are data-driven.",
      "",
      "https://code.google.com/p/robotframework/wiki/HowToWriteGoodTestCases#Test_suite_structure",
      "",
      "You can configure the maximum number of tests. The default is 10."]
  | silent => ""
  | echoPair _ => ""

@[inherit_doc SuiteCheck.description]
def ResourceCheck.description : ResourceCheck → Text
  | echoValue _ => ""
  | echoName => Text.joinWith "\n" [
      "Reports with a severity that is neither W nor E",
      "",
      "        indented more",
      "      indented less",
      "",
      "    "]

@[inherit_doc SuiteCheck.description]
def TestCheck.description : TestCheck → Text
  | periodInName => Text.joinWith "\n" [
      "Warn about periods in the testcase name",
      "",
      "Since robot uses \".\" as a path separator, using a \".\" in a testcase",
      "name can lead to ambiguity."]
  | tagWithSpaces => "Flags tags that have spaces in the tag name"
  | documentation => Text.joinWith "\n" [
      "Verify that a test suite has documentation",
      "",
      "This rule is not enforced for data driven tests (\"Test Template\" in Settings)"]
  | fewSteps _ => Text.joinWith "\n" [
      "Tests should have at least a minimum number of steps",
      "",
      "This rule is configurable. The default number of required steps is 2."]
  | manySteps _ => Text.joinWith "\n" [
      "Workflow tests should have no more than ten steps.",
      "",
      "https://code.google.com/p/robotframework/wiki/HowToWriteGoodTestCases#Workflow_tests"]
  | forLoop => Text.joinWith "\n" [
      "Workflow tests should have no for loop in test case.",
      "A for loop should only be used in user keywords.",
      "",
      "This rule is not enforced for data driven tests (\"Test Template\" in Settings)",
      "",
      handbook ++ "#workflow-tests"]
  | condition => Text.joinWith "\n" [
      "Workflow tests should have no IF/ELSE statement in test case.",
      "A IF/ELSE statement should only be used in user keywords.",
      "",
      "This rule is not enforced for data driven tests (\"Test Template\" in Settings)",
      "",
      handbook ++ "#workflow-tests"]
  | silent => ""
  | countTags => "\tOne tab first\n\tthen a tab\n\t  and more\n\t"

@[inherit_doc SuiteCheck.description]
def KeywordCheck.description : KeywordCheck → Text
  | documentation => "Verify that a keyword has documentation"
  | fewSteps _ => Text.joinWith "\n" [
      "Keywords should have at least a minimum number of steps",
      "",
      "This rule is configurable. The default number of required steps is 2."]
  | silent => ""
  | stepLines => ""

@[inherit_doc SuiteCheck.description]
def GeneralCheck.description : GeneralCheck → Text
  | lineLength _ => "Check that a line is not too long (configurable; default=100)"
  | blankEnd _ => Text.joinWith "\n" [
      "Check for multiple blank lines at the end of a file",
      "",
      "This is a configurable. The default value is 2."]
  | fileLength _ => Text.joinWith "\n" [
      "Verify the file has fewer lines than a given threshold.",
      "",
      "You can configure the maximum number of lines. The default is 300."]
  | variableCase => Text.joinWith "\n" [
      "Verify that all global variables are in capital letters.",
      "",
      "A variable is considered global when it is accessible on a",
      "global-, suite- or test level.",
      "",
      "See: " ++ handbook ++ "#variable-naming"]
  | silent => ""
  | echoKind => ""
  | echoKindBriefly => "Ignored unless asked for"

@[inherit_doc SuiteCheck.description]
def Check.description : Check → Text
  | suite c => c.description
  | resource c => c.description
  | test c => c.description
  | keyword c => c.description
  | general c => c.description

end SuiteLint
