import SuiteLint.Check
import SuiteLint.Fault
import SuiteLint.Text.Digit

/-!
# Configuring a check

Some checks take values: a limit, which is an integer, or any text. The values are
given as texts, and a check takes as many as it takes, neither more nor fewer.
Configuring a check leaves its name and its scope as they are.
-/

namespace SuiteLint

/-- A value that a check was configured with. -/
inductive Setting
  /-- An integer. -/
  | number (n : Int)
  /-- A text. -/
  | text (t : Text)
  deriving DecidableEq, Repr

/-- The only value given to a rule that takes one, which is called `value`. -/
def onlyValue (rule value : Text) : List Text → Except Fault Text
  | [given] => .ok given
  | [] => .error (.missingValue rule value)
  | given => .error (.surplusValues rule 1 1 given.length)

/-- The only value given to a rule that takes an integer. -/
def onlyInteger (rule value : Text) (given : List Text) : Except Fault Int := do
  let literal ← onlyValue rule value given
  match Text.readInt? literal with
  | some n => return n
  | none => throw (.notInteger literal)

namespace Check

/-- The check with other values. -/
def configure (check : Check) (given : List Text) : Except Fault Check :=
  let integer (value : Text) (make : Int → Check) : Except Fault Check :=
    (onlyInteger check.name value given).map make
  match check with
  | suite (.testCount _) => integer "max_allowed" fun n => suite (.testCount n)
  | suite (.echoPair _) =>
    match given with
    | [] => .error (.missingValue check.name "first")
    | [first] => .ok (suite (.echoPair (some (first, "two"))))
    | [first, second] => .ok (suite (.echoPair (some (first, second))))
    | _ => .error (.surplusValues check.name 1 2 given.length)
  | resource (.echoValue _) =>
    (onlyValue check.name "value" given).map fun v => resource (.echoValue (some v))
  | test (.fewSteps _) => integer "min_required" fun n => test (.fewSteps n)
  | test (.manySteps _) => integer "max_allowed" fun n => test (.manySteps n)
  | keyword (.fewSteps _) => integer "min_required" fun n => keyword (.fewSteps n)
  | general (.lineLength _) => integer "maxchars" fun n => general (.lineLength n)
  | general (.blankEnd _) => integer "max_allowed" fun n => general (.blankEnd n)
  | general (.fileLength _) => integer "max_allowed" fun n => general (.fileLength n)
  | _ => .error (.notConfigurable check.name)

/-- The values of a check, by name. -/
def settings : Check → List (Text × Setting)
  | suite (.testCount n) => [("max_allowed", .number n)]
  | suite (.echoPair (some (first, second))) => [("first", .text first), ("second", .text second)]
  | resource (.echoValue (some v)) => [("value", .text v)]
  | test (.fewSteps n) => [("min_required", .number n)]
  | test (.manySteps n) => [("max_allowed", .number n)]
  | keyword (.fewSteps n) => [("min_required", .number n)]
  | general (.lineLength n) => [("maxchars", .number n)]
  | general (.blankEnd n) => [("max_allowed", .number n)]
  | general (.fileLength n) => [("max_allowed", .number n)]
  | _ => []

end Check

end SuiteLint
