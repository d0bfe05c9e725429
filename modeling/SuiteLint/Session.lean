import SuiteLint.Registry
import SuiteLint.Remark
import SuiteLint.Template

/-!
# Sessions

A session lives through any number of runs. It keeps its rules, with their
severities and values, and which of them were made, the extensions it was asked to
look at, the settings of the last run, and what that run counted.

What is done in a session is an *action*: it starts from a session and leaves one
behind, it prints to two channels, and it either gives a result or stops early,
with an exit status or a fault. What was printed and changed before it stopped
stays.
-/

namespace SuiteLint

/-! ### State -/

/-- The template of findings, unless another one is asked for. -/
def defaultTemplate : Text :=
  "\x7bseverity\x7d: \x7blinenumber\x7d, \x7bchar\x7d: \x7bmessage\x7d (\x7brulename\x7d)"

/-- What the arguments of a run ask for. -/
structure Settings where
  /-- List the rules. -/
  list : Bool := false
  /-- Describe rules. -/
  describe : Bool := false
  /-- Show the names of files. -/
  showNames : Bool := true
  /-- How findings are shown. -/
  template : Text := defaultTemplate
  /-- Show the version. -/
  version : Bool := false
  /-- Show more. -/
  verbose : Bool := false
  /-- Look into folders again and again. -/
  recursive : Bool := false
  /-- The files and folders to look at. -/
  paths : List Text := []
  deriving DecidableEq, Repr

/-- How many findings of each severity were reported. -/
structure Counts where
  /-- Errors. -/
  errors : Nat := 0
  /-- Warnings. -/
  warnings : Nat := 0
  /-- Findings of other severities. -/
  others : Nat := 0
  deriving DecidableEq, Repr

/-- The counts with one more finding. -/
def Counts.add (counts : Counts) : Severity → Counts
  | .error => { counts with errors := counts.errors + 1 }
  | .warning => { counts with warnings := counts.warnings + 1 }
  | _ => { counts with others := counts.others + 1 }

/-- What a session keeps. -/
structure Session where
  /-- Its rules. -/
  rules : Registry := Registry.standing
  /-- The names, in small letters, of the rules that were made. -/
  made : List Text := []
  /-- The extensions of the files to look at, without dots; all, if there are none. -/
  extensions : List Text := []
  /-- The settings of the last run whose arguments could be read. -/
  settings : Settings := {}
  /-- The counts of the last run that looked at files. -/
  counts : Option Counts := none
  /-- Whether a file was looked at, and then, the name that is still to be shown
  before the first finding in it. -/
  heading : Option (Option Text) := none
  /-- What standard input still has to give. -/
  input : Text := []
  /-- How many mentions of argument files are followed, one after the other, before it is
  given up. The files may name each other without end, and would then be read for ever. No
  statement depends on the bound: what holds of sessions holds whatever it is. -/
  mentionBound : Nat := 4096
  deriving DecidableEq, Repr

namespace Session

/-- The session once the rules of a scope were asked for. -/
def asked (session : Session) (scope : Scope) : Session :=
  { session with
    rules := session.rules.settle session.made scope
    made := session.rules.madeAfter session.made scope }

/-- The session once the rules of all scopes were asked for, in the order in which they are
listed. -/
def askedAll (session : Session) : Session :=
  ((((session.asked .suite).asked .resource).asked .test).asked .keyword).asked .general

end Session

/-! ### Actions -/

/-- Why an action stops early. -/
inductive Stop
  /-- With an exit status. -/
  | exit (status : Nat)
  /-- With a fault. -/
  | fault (f : Fault)
  deriving DecidableEq, Repr

/-- What an action leaves behind. -/
structure Outcome (α : Type) where
  /-- What was printed to standard output. -/
  out : Text
  /-- What was printed to standard error. -/
  err : Text
  /-- The session afterwards. -/
  session : Session
  /-- The result. -/
  result : Except Stop α

/-- Something that is done in a session. -/
def Action (α : Type) : Type := Session → Outcome α

namespace Action

variable {α β : Type}

/-- The action that does nothing and gives a result. -/
def done (a : α) : Action α := fun session => ⟨[], [], session, .ok a⟩

/-- One action and then another, unless the first one stops early. -/
def andThen (first : Action α) (next : α → Action β) : Action β := fun session =>
  let before := first session
  match before.result with
  | .error stop => ⟨before.out, before.err, before.session, .error stop⟩
  | .ok a =>
    let after := next a before.session
    ⟨before.out ++ after.out, before.err ++ after.err, after.session, after.result⟩

instance : Monad Action where
  pure := done
  bind := andThen

/-- Stops. -/
def stop (reason : Stop) : Action α := fun session => ⟨[], [], session, .error reason⟩

/-- Gives up. -/
def fail (fault : Fault) : Action α := stop (.fault fault)

/-- Gives the result of a computation, or gives up. -/
def ofExcept : Except Fault α → Action α
  | .ok a => done a
  | .error fault => fail fault

/-- Prints to standard output. -/
def print (text : Text) : Action Unit := fun session => ⟨text, [], session, .ok ()⟩

/-- Prints to standard error. -/
def complain (text : Text) : Action Unit := fun session => ⟨[], text, session, .ok ()⟩

/-- The session. -/
def current : Action Session := fun session => ⟨[], [], session, .ok session⟩

/-- Changes the session. -/
def update (f : Session → Session) : Action Unit := fun session => ⟨[], [], f session, .ok ()⟩

/-- Does something for each element of a list, in order. -/
def forEach (f : α → Action Unit) : List α → Action Unit
  | [] => done ()
  | a :: as => andThen (f a) fun _ => forEach f as

end Action

/-! ### Asking for rules -/

namespace Session

/-- The rules, after those of a scope have been made. -/
def ask (scope : Scope) : Action Registry := do
  Action.update fun session => session.asked scope
  return (← Action.current).rules

/-- The rules, after those of one scope after the other have been made. -/
def askAll : Action Registry := do
  Action.update askedAll
  return (← Action.current).rules

end Session

/-! ### Reporting -/

/-- The values that the template of findings can refer to. -/
def Report.value (report : Report) (name : Text) : Option Template.Value :=
  if name = "linenumber" then some (.number report.line)
  else if name = "char" then some (.number report.char)
  else if name = "filename" then some (.text report.path)
  else if name = "severity" then some (.text report.severity.code)
  else if name = "message" then some (.text report.message)
  else if name = "rulename" then some (.text report.rule)
  else none

/-- A finding as it is shown. -/
def Report.render (template : Text) (report : Report) : Except Fault Text :=
  (Template.fill report.value template).mapError .template

namespace Session

/-- Shows the name of the file that is looked at, if that is still to be done. -/
def showHeading : Action Unit := do
  match (← Action.current).heading with
  | none => Action.fail .nothingOpen
  | some none => Action.done ()
  | some (some name) =>
    Action.print (Text.line ("+ " ++ name))
    Action.update fun session => { session with heading := some none }

/-- Counts a finding. -/
def count (severity : Severity) : Action Unit :=
  Action.update fun session =>
    { session with counts := some ((session.counts.getD {}).add severity) }

/-- Reports a finding: it is counted and shown. -/
def report (report : Report) : Action Unit := do
  showHeading
  count report.severity
  let text ← Action.ofExcept (report.render (← Action.current).settings.template)
  Action.print (Text.line text)

end Session

end SuiteLint
