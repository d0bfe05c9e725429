import SuiteLint.Rule

/-!
# Rule packs

A file can hold a rule pack: further rules, which are added to those of a session
when the file is loaded. Loading can also fail, with a reason that is passed on to
the user.
-/

namespace SuiteLint

/-- What loading a file as a rule pack does. -/
inductive RulePack
  /-- It adds rules. -/
  | rules (added : List Rule)
  /-- It fails. -/
  | failing (reason : Text)
  deriving DecidableEq, Repr

namespace RulePack

/-- Four rules, one for each scope but that of resource files, that find nothing. -/
def silent : RulePack :=
  .rules [
    .ofCheck (.test .silent) .warning,
    .ofCheck (.suite .silent) .warning,
    .ofCheck (.general .silent) .warning,
    .ofCheck (.keyword .silent) .warning]

/-- A rule that reports the value it was configured with. -/
def valueEcho : RulePack := .rules [.ofCheck (.resource (.echoValue none)) .warning]

/-- A rule that reports the kind of a file. -/
def kindEcho : RulePack := .rules [.ofCheck (.general .echoKind) .warning]

/-- Five rules, one for each scope, of various severities. -/
def assorted : RulePack :=
  .rules [
    .ofCheck (.resource .echoName) (.other "X"),
    .ofCheck (.test .countTags) .error,
    .ofCheck (.keyword .stepLines) .error,
    .ofCheck (.suite (.echoPair none)) .warning,
    .ofCheck (.general .echoKindBriefly) .ignore]

/-- A pack that cannot be loaded. -/
def broken : RulePack := .failing "boom"

/-- The packs that a file can hold, each with the name by which the file asks for it. -/
def known : List (Text × RulePack) :=
  [("silent", silent), ("value-echo", valueEcho), ("kind-echo", kindEcho),
    ("assorted", assorted), ("broken", broken)]

/-- The pack of the given name. -/
def named? (name : Text) : Option RulePack :=
  (known.find? (·.1 = name)).map Prod.snd

end RulePack

end SuiteLint
