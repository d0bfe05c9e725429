import SuiteLint.FileTree
import SuiteLint.Template.Fault

/-!
# Faults

A fault is what makes the linter give up: an option it cannot follow, a threshold
that points past the end of a list, a file whose text is needed and could not be
read. Findings are not faults; they are what the linter is for. Every cause is a
constructor of `Fault`, and `Fault.message` has the words for it, which are shown
to the user.
-/

namespace SuiteLint

/-- Why the linter gives up. -/
inductive Fault
  /-- No rule has this name. -/
  | unknownRule (name : Text)
  /-- A list has nothing at this position. -/
  | noItem
  /-- A list has no place at this position to put something. -/
  | noPlace
  /-- A position that no list can have. -/
  | farPosition
  /-- The rule takes no values. -/
  | notConfigurable (rule : Text)
  /-- The rule takes at least `least` and at most `most` values, and got more. -/
  | surplusValues (rule : Text) (least most given : Nat)
  /-- The rule was not given the value of this name. -/
  | missingValue (rule value : Text)
  /-- Not an integer. -/
  | notInteger (literal : Text)
  /-- A rule's name and its values are not divided by a colon. -/
  | noColon
  /-- The rule is applied before it was given the value of this name. -/
  | unconfigured (rule value : Text)
  /-- The text of the file is needed, and could not be read. -/
  | unread
  /-- A rule is applied to an object of this kind, which has nothing of this name. -/
  | lacks (object what : Text)
  /-- A group is asked for where nothing matched. -/
  | unmatched
  /-- The pattern has no group of this number. -/
  | noGroup
  /-- A table of blocks that does not say of which blocks. -/
  | undeterminedTable
  /-- Something is reported before any file was looked at. -/
  | nothingOpen
  /-- The argument file cannot be read. -/
  | argumentFile (path : Text) (failure : ReadFailure)
  /-- Argument files that name each other without end. -/
  | endlessArguments
  /-- The template of the findings cannot be filled in. -/
  | template (fault : Template.Fault)
  deriving DecidableEq, Repr

/-- The fault as a rule of the given name has it. Two faults say which rule it is; a check
can only say which check. -/
def Fault.ofRule (name : Text) : Fault → Fault
  | notConfigurable _ => notConfigurable name
  | unconfigured _ value => unconfigured name value
  | fault => fault

/-- How many positional arguments a rule takes, itself included. -/
def Fault.arity (least most : Nat) : Text :=
  if least = most then Text.ofNat (most + 1)
  else "from " ++ Text.ofNat (least + 1) ++ " to " ++ Text.ofNat (most + 1)

/-- The cause in words. -/
def Fault.message : Fault → Text
  | unknownRule name => "unknown rule: '" ++ name ++ "'"
  | noItem => "list index out of range"
  | noPlace => "list assignment index out of range"
  | farPosition => "cannot fit 'int' into an index-sized integer"
  | notConfigurable rule => "rule '" ++ rule ++ "' is not configurable"
  | surplusValues rule least most given =>
    rule ++ ".configure() takes " ++ Fault.arity least most ++ " positional arguments but " ++
      Text.ofNat (given + 1) ++ " were given"
  | missingValue rule value =>
    rule ++ ".configure() missing 1 required positional argument: '" ++ value ++ "'"
  | notInteger literal =>
    "invalid literal for int() with base 10: " ++ (Text.quote literal).take 200
  | noColon => "not enough values to unpack (expected 2, got 1)"
  | unconfigured rule value => "'" ++ rule ++ "' object has no attribute '" ++ value ++ "'"
  | unread => "'ResourceFile' object has no attribute 'raw_text'"
  | lacks object what => "'" ++ object ++ "' object has no attribute '" ++ what ++ "'"
  | unmatched => "'NoneType' object has no attribute 'group'"
  | noGroup => "no such group"
  | undeterminedTable => "D'oh! This is an abstract class."
  | nothingOpen => "'RfLint' object has no attribute '_print_filename'"
  | argumentFile path failure =>
    match failure with
    | .obstacle .nullCharacter => failure.message path
    | _ => "Opening argument file '" ++ path ++ "' failed: " ++ failure.message path
  | endlessArguments => "maximum recursion depth exceeded"
  | template fault => fault.message

end SuiteLint
