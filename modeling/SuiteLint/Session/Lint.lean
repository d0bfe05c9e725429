import SuiteLint.Check.Apply
import SuiteLint.Session

/-!
# Linting files

To lint a file is to apply the rules of the session that are not ignored, in a
fixed order: the general rules, then, for a suite, the rules on suites and, test
case by test case, those on test cases, and for any other file the rules on
resources, and at last, keyword by keyword, the rules on keywords.
This goes in *rounds*, in each of which the rules of one scope are asked for and
applied to one object. They are asked for anew in every round.

Linting a folder lints the files in it that have one of three extensions, and those
in the folders in it. Recursively, each folder is looked into twice, once from the
folder above it and once more on its own account.
-/

namespace SuiteLint

/-! ### Reporting verdicts -/

/-- Whether a fault is that of a position at which there is nothing. -/
def Fault.isPositional : Fault → Bool
  | noItem | noPlace | farPosition | noGroup => true
  | template (.numbered _) | template .noCharacter => true
  | _ => false

/-- Whether a rule passes over faults of position, even those in the template. The
rules that look at the second cell of each step do, since a step may have none. -/
def Check.passesOver : Check → Bool
  | test .forLoop | test .condition => true
  | _ => false

/-- An action of which a fault of position does not stop what follows. -/
def Action.passOver (action : Action Unit) : Action Unit := fun session =>
  let outcome := action session
  match outcome.result with
  | .error (.fault fault) =>
    if fault.isPositional then { outcome with result := .ok () } else outcome
  | _ => outcome

namespace Session

/-- Reports what a rule has to say about a file. -/
def reportRemark (rule : Rule) (path : Text) (remark : Remark) : Action Unit :=
  let action := report (rule.report path remark)
  if rule.check.passesOver then action.passOver else action

/-- Reports a verdict, or gives up if there is none. -/
def reportVerdict (path : Text) : Rule × Verdict → Action Unit
  | (rule, .ok remarks) => Action.forEach (reportRemark rule path) remarks
  | (rule, .error fault) => Action.fail (fault.ofRule rule.name)

end Session

/-! ### Rounds -/

/-- Rules of one scope, and what they are applied to. -/
abbrev Round := Scope × Subject

/-- The rounds in which a document is linted. -/
def Document.rounds (document : Document) : List Round :=
  [(.general, .document document)] ++
    (if document.isSuite then
      (.suite, .document document) ::
        document.testCases.map fun block => (.test, .block document block)
    else [(.resource, .document document)]) ++
    document.keywords.map fun block => (.keyword, .block document block)

/-- The rules of a scope that are not ignored. -/
def Registry.active (rules : Registry) (scope : Scope) : List Rule :=
  (rules.ofScope scope).filter Rule.active

/-- The rules that are applied in a round, with their verdicts. -/
def Round.applications (rules : Registry) (round : Round) : List (Rule × Verdict) :=
  (rules.active round.1).map fun rule => (rule, rule.check.on round.2)

namespace Session

/-- Plays a round. -/
def playRound (path : Text) (round : Round) : Action Unit := do
  let rules ← ask round.1
  Action.forEach (reportVerdict path) (round.applications rules)

/-- Lints a document. -/
def lintDocument (document : Document) : Action Unit :=
  Action.forEach (playRound document.path) document.rounds

/-! ### Files and folders -/

/-- Whether a session looks at files with the extension of the given path. -/
def accepts (session : Session) (path : Text) : Bool :=
  session.extensions.isEmpty || session.extensions.contains ((Path.extension path).drop 1)

/-- Begins with a file: its name is shown before the first finding, unless names
are not wanted. -/
def openFile (path : Text) : Action Unit :=
  Action.update fun session =>
    { session with heading := some (if session.settings.showNames then some path else none) }

/-- Lints a file. -/
def lintFile (tree : FileTree) (path : Text) : Action Unit := do
  if (← Action.current).accepts path then
    openFile path
    let (document, complaint) := Document.load tree path
    Action.complain complaint
    lintDocument document

/-- Whether a file in a folder is linted when the folder is. -/
def isLinted (name : Text) : Bool :=
  let extension := Text.lower (Path.extension name)
  extension == ".robot" || extension == ".txt" || extension == ".tsv"

/-- The files among the entries of a folder that are linted. -/
def ownFiles (folder : Text) (entries : List Entry) : List Text :=
  (entries.filter fun entry => !entry.isFolder && isLinted entry.name).map fun entry =>
    Path.join folder entry.name

mutual

/-- The files that are linted when a folder is, in order. -/
def filesUnder (again : Bool) (path : Text) : Entry → List Text
  | .file _ _ => []
  | .folder _ entries =>
    ownFiles path entries ++ (if again then filesBelow again path entries else []) ++
      filesBelow again path entries

/-- The files that are linted when the folders among entries are, in order. -/
def filesBelow (again : Bool) (path : Text) : List Entry → List Text
  | [] => []
  | entry :: entries =>
    filesUnder again (Path.join path entry.name) entry ++ filesBelow again path entries

end

/-- The complaint about a path that leads nowhere. -/
def missingComplaint (path : Text) : Text :=
  Text.line ("rflint: " ++ path ++ ": No such file or directory")

/-- Lints what a path leads to. -/
def lintPath (tree : FileTree) (path : Text) : Action Unit := do
  match tree.lookup path with
  | .error _ => Action.complain (missingComplaint path)
  | .ok (.file _ _) => lintFile tree path
  | .ok (.folder name entries) =>
    let again := (← Action.current).settings.recursive
    Action.forEach (lintFile tree) (filesUnder again path (.folder name entries))

end Session

end SuiteLint
