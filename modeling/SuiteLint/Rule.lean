import SuiteLint.Check.Description
import SuiteLint.Doc
import SuiteLint.Text.Case

/-!
# Rules

A rule is a check together with a name, a description, what the check is applied to
and the severity that its findings get. The severity decides how a finding is counted
and, if it is the one to ignore, that the check is not applied at all. Severities are
written as codes. A rule pack may use a code of its own, which is then counted apart.

Two rules whose names differ in letter case only count as rules of the same name.

The standing rules are listed scope by scope. This is also the order in which they
are applied.
-/

namespace SuiteLint

/-- How serious the findings of a rule are. -/
inductive Severity
  /-- An error. -/
  | error
  /-- A warning. -/
  | warning
  /-- The rule is not applied. -/
  | ignore
  /-- A severity with a code of its own. -/
  | other (code : Text)
  deriving DecidableEq, Repr

namespace Severity

/-- The code that a severity is written as. -/
def code : Severity → Text
  | error => "E"
  | warning => "W"
  | ignore => "I"
  | other c => c

/-- The severity that a code stands for. -/
def ofCode (c : Text) : Severity :=
  if c = "E" then error
  else if c = "W" then warning
  else if c = "I" then ignore
  else other c

end Severity

/-- A rule. What it looks for is a check, but its name, its scope and its description are its
own: a rule pack can have a rule of any name for any scope. -/
structure Rule where
  /-- What it is called. -/
  name : Text
  /-- A name has no blanks in it. -/
  solid : ∀ c ∈ name, Text.isBlank c = false
  /-- What it is applied to. -/
  scope : Scope
  /-- What it says of itself, as written. -/
  description : Text
  /-- What is looked for. -/
  check : Check
  /-- How serious it is. -/
  severity : Severity
  deriving DecidableEq, Repr

/-- No check has blanks in its name. -/
theorem Check.solid_name (check : Check) : ∀ c ∈ check.name, Text.isBlank c = false := by
  have hall : check.name.all (!Text.isBlank ·) = true := by
    rcases check with check | check | check | check | check <;> cases check <;> rfl
  simpa using hall

namespace Rule

/-- The rule of a check, with its name, its scope and its description. -/
def ofCheck (check : Check) (severity : Severity) : Rule where
  name := check.name
  solid := check.solid_name
  scope := check.scope
  description := check.description
  check := check
  severity := severity

/-- The name of a rule without regard to letter case. -/
def folded (rule : Rule) : Text := Text.lower rule.name

/-- The rule in another scope. -/
def under (scope : Scope) (rule : Rule) : Rule := { rule with scope }

/-- The description of a rule as it is shown. -/
def doc (rule : Rule) : Text := Doc.trim rule.description

/-- A rule with the given severity and name, as it is listed. -/
def summaryOf (severity : Severity) (name : Text) : Text := severity.code ++ " " ++ name

/-- The rule as it is listed. -/
def summary (rule : Rule) : Text := summaryOf rule.severity rule.name

/-- Whether the rule is applied. -/
def active (rule : Rule) : Bool := rule.severity ≠ .ignore

/-- The standing rules. -/
def standing : List Rule := [
  ofCheck (.suite .periodInName) .warning,
  ofCheck (.suite .invalidTable) .warning,
  ofCheck (.suite .duplicateKeywords) .error,
  ofCheck (.suite .duplicateTests) .error,
  ofCheck (.suite .documentation) .warning,
  ofCheck (.suite (.testCount 10)) .warning,
  ofCheck (.test .periodInName) .warning,
  ofCheck (.test .tagWithSpaces) .error,
  ofCheck (.test .documentation) .error,
  ofCheck (.test (.fewSteps 2)) .warning,
  ofCheck (.test (.manySteps 10)) .warning,
  ofCheck (.test .forLoop) .warning,
  ofCheck (.test .condition) .warning,
  ofCheck (.keyword .documentation) .error,
  ofCheck (.keyword (.fewSteps 2)) .warning,
  ofCheck (.general (.lineLength 100)) .warning,
  ofCheck (.general (.blankEnd 2)) .warning,
  ofCheck (.general (.fileLength 300)) .warning,
  ofCheck (.general .variableCase) .warning]

end Rule

end SuiteLint
