import SuiteLint.Session.Arguments

/-!
# Runs

A run takes up its arguments and then does one thing: it shows the version, lists
the rules, describes rules, or lints files and folders. The last is what it is for.
Its result is the number of errors found, up to 253, and 255 if there are more; so
it is zero exactly if there are none, and fits in an exit status.
-/

namespace SuiteLint

namespace Session

/-- The version. -/
def version : Text := "0.8"

/-- A description, with each line after a margin. -/
def indent (margin description : Text) : Text :=
  (Text.pieces '\n' description).flatMap fun line => Text.line (margin ++ line)

/-- Lists the rules in the order of their names, with their descriptions if more is
to be shown. -/
def listRules (verbose : Bool) : Action Unit := do
  Action.forEach
    (fun rule => Action.print
      (Text.line rule.summary ++ if verbose then indent "     " rule.doc else []))
    (← askAll).byName

/-- Gives up at the first name that no rule has. -/
def checkNames (rules : Registry) : List Text → Action Unit
  | [] => Action.done ()
  | name :: names =>
    if rules.knows name then checkNames rules names else Action.fail (.unknownRule name)

/-- Describes the rules with the given names, or all if there are none, in the order
of their names. -/
def describeRules (names : List Text) : Action Unit := do
  let rules ← askAll
  checkNames rules names
  let wanted := names.map fun name => Text.lower (Text.strip name)
  Action.forEach (fun rule => Action.print (Text.line rule.name ++ indent "    " rule.doc))
    (rules.byName.filter fun rule => wanted.isEmpty || wanted.contains (Text.lower rule.name))

/-- The result of a run with the given number of errors. -/
def status (errors : Nat) : Nat := if errors < 254 then errors else 255

/-- Lints what the given paths lead to, and gives the result of the run. -/
def lintPaths (tree : FileTree) (paths : List Text) : Action Nat := do
  Action.update fun session => { session with counts := some {} }
  Action.forEach (lintPath tree) paths
  return status ((← Action.current).counts.getD {}).errors

/-- A run with the given arguments. -/
def run (tree : FileTree) (arguments : List Text) : Action Nat := do
  let settings ← readArguments tree arguments
  if settings.version then
    Action.print (Text.line version)
    return 0
  else if settings.list then
    listRules settings.verbose
    return 0
  else if settings.describe then
    describeRules settings.paths
    return 0
  else
    lintPaths tree settings.paths

/-! ### Starting a session -/

/-- Whether a file in the folder of the site's rule packs is loaded. -/
def isSitePack (name : Text) : Bool :=
  Text.endsWith name ".py" && !Text.startsWith name "." && !Text.endsWith name ".__init__.py"

/-- Loads the rule packs of a site, from the folder at the given path. -/
def loadSite (tree : FileTree) (folder : Text) : Action Unit :=
  Action.forEach (fun entry => loadRules tree (Path.join folder entry.name))
    (((tree.folder? folder).getD []).filter fun entry => isSitePack entry.name)

/-- A run of a session of its own, in which a fault is shown and makes the result 1. -/
def command (tree : FileTree) (siteFolder : Text) (arguments : List Text) : Action Nat :=
  fun session =>
    let outcome := (loadSite tree siteFolder >>= fun _ => run tree arguments) session
    match outcome.result with
    | .error (.fault fault) =>
      { outcome with err := outcome.err ++ Text.line fault.message, result := .ok 1 }
    | _ => outcome

/-- The command as a program: without arguments it shows its help, and its result is
the exit status. -/
def program (tree : FileTree) (siteFolder : Text) (arguments : List Text) : Action Unit := do
  let status ← command tree siteFolder (if arguments.isEmpty then ["--help"] else arguments)
  Action.stop (.exit status)

end Session

end SuiteLint
