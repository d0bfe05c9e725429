import SuiteLint.Document
import SuiteLint.Rule

/-!
# Remarks and reports

What a check has to say about one place is a *remark*: a line, a position on it and
a message. The rule that applies the check turns it into a *report* by adding its
severity, its name and the path of the file.

Applying a check to one object either gives remarks or ends in a fault.
-/

namespace SuiteLint

/-- What a check has to say about one place. -/
structure Remark where
  /-- The line. -/
  line : Int
  /-- What is said. -/
  message : Text
  /-- The position on the line. -/
  char : Int := 0
  deriving DecidableEq, Repr

/-- A remark as it is reported. -/
structure Report where
  /-- The line. -/
  line : Int
  /-- The position on the line. -/
  char : Int
  /-- How serious it is. -/
  severity : Severity
  /-- What is said. -/
  message : Text
  /-- The rule that says it. -/
  rule : Text
  /-- The absolute path of the file. -/
  path : Text
  deriving DecidableEq, Repr

/-- The report that a rule makes of a remark about a file. -/
def Rule.report (rule : Rule) (path : Text) (remark : Remark) : Report :=
  { line := remark.line, char := remark.char, severity := rule.severity,
    message := remark.message, rule := rule.name, path }

/-- The outcome of applying a check to one object. -/
abbrev Verdict := Except Fault (List Remark)

end SuiteLint
