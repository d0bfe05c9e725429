import SuiteLint.CommandLine.ArgumentFile
import SuiteLint.CommandLine.Help
import SuiteLint.CommandLine.Word
import SuiteLint.Session.Lint

/-!
# Taking up arguments

Options take effect one after the other, as they are met: they change rules, load
rule packs, or change the settings of the run. From the first operand on, all words
are files and folders to look at, even if they look like options. Words that look
like options but are none are collected and are complained about at the end.

An argument file is taken up in the middle of this, by the same rules and into the
same settings. The operands in it count only until the operands of the command line
are met, which is always the case in the end.

Argument files may name each other, or themselves. How often this is followed is bounded
by a value of the session, and what ends there ends in a fault of its own
(`Fault.endlessArguments`). Without a bound it would not end at all.
-/

namespace SuiteLint

namespace Session

/-! ### What options do -/

/-- Replaces the rules. -/
def setRules (rules : Registry) : Action Unit :=
  Action.update fun session => { session with rules }

/-- Gives rules a severity. -/
def setSeverity (name : Text) (severity : Severity) : Action Unit := do
  setRules (← Action.ofExcept ((← askAll).setSeverity name severity))

/-- Configures a rule. The option has the name of the rule and the values, with a colon
between them. -/
def configure (option : Text) : Action Unit := do
  match Text.cutAt ':' option with
  | none => Action.fail .noColon
  | some (name, values) =>
    setRules (← Action.ofExcept ((← askAll).configure name values))

/-- Looks at files with a further extension, which may be given with its dot. -/
def addExtension (extension : Text) : Action Unit :=
  Action.update fun session =>
    { session with extensions := session.extensions ++ [Text.without '.' extension] }

/-- The complaint about a rule pack that cannot be loaded. -/
def loadComplaint (path reason : Text) : Text :=
  Text.line ("rflint: " ++ path ++ ": exception while loading: " ++ reason)

/-- Loads a rule pack. A file that is none adds no rules. -/
def loadRules (tree : FileTree) (path : Text) : Action Unit :=
  if !tree.pathExists path then Action.complain (missingComplaint path)
  else
    match tree.content path with
    | .error obstacle => Action.complain (loadComplaint path (obstacle.message path))
    | .ok content =>
      match content.pack with
      | none => Action.done ()
      | some (.failing reason) => Action.complain (loadComplaint path reason)
      | some (.rules added) =>
        Action.update fun session =>
          { session with rules := session.rules.addAll session.made added }

/-! ### Argument files -/

/-- Whether a path stands for standard input. -/
def isStandardInput (path : Text) : Bool := Text.lower path == "stdin"

/-- What standard input has to give. It gives it once. -/
def readInput : Action Text := do
  let session ← Action.current
  Action.update fun session => { session with input := [] }
  return session.input

/-- The text of an argument file. -/
def readArgumentFile (tree : FileTree) (path : Text) : Action Text :=
  if isStandardInput path then readInput
  else
    match tree.readText path with
    | .ok text => Action.done text
    | .error failure => Action.fail (.argumentFile path failure)

/-- Replaces mentions of argument files by the arguments in them, at most a given
number of times. -/
def expandArguments (tree : FileTree) : Nat → List Text → Action (List Text)
  | 0, _ => Action.fail .endlessArguments
  | bound + 1, arguments =>
    match ArgumentFile.nextMention? arguments with
    | none => Action.done arguments
    | some mention => do
      let text ← readArgumentFile tree mention.path
      expandArguments tree bound
        (mention.before ++ ArgumentFile.arguments text ++ mention.after)

/-- The arguments in an argument file, those in the files it names included. -/
def argumentsIn (tree : FileTree) (path : Text) : Action (List Text) := do
  expandArguments tree (← Action.current).mentionBound ["-A", path]

/-! ### Taking up words -/

/-- Complains about wrong usage and stops. -/
def failUsage {α : Type} (fault : UsageFault) : Action α := do
  Action.complain (Help.complaint fault)
  Action.stop (.exit 2)

/-- Goes on with what was read of words, or complains about wrong usage and stops. -/
def orUsage {α : Type} : Except UsageFault α → Action α
  | .ok a => Action.done a
  | .error fault => failUsage fault

/-- Lets one option take effect. `nested` takes up the arguments of an argument
file. -/
def perform (tree : FileTree) (nested : Settings → List Text → Action Settings)
    (settings : Settings) (use : Use) : Action Settings := do
  match use.switch with
  | .help =>
    Action.print Help.text
    Action.stop (.exit 0)
  | .extension => addExtension use.value
  | .error => setSeverity use.value .error
  | .ignore => setSeverity use.value .ignore
  | .warning => setSeverity use.value .warning
  | .list => return { settings with list := true }
  | .describe => return { settings with describe := true }
  | .noFilenames => return { settings with showNames := false }
  | .format => return { settings with template := use.value }
  | .version => return { settings with version := true }
  | .verbose => return { settings with verbose := true }
  | .configure => configure use.value
  | .recursive => return { settings with recursive := true }
  | .rulefile => loadRules tree use.value
  | .argumentfile => return ← nested settings (← argumentsIn tree use.value)
  return settings

/-- Lets options take effect one after the other. -/
def performAll (perform : Settings → Use → Action Settings) (settings : Settings) :
    List Use → Action Settings
  | [] => Action.done settings
  | use :: uses => do performAll perform (← perform settings use) uses

/-- Takes up words. `surplus` has the words met so far that are no options. -/
def takeWords (perform : Settings → Use → Action Settings) (surplus : List Text)
    (settings : Settings) : List (Text × Reading) → Action Settings
  | [] => finish surplus { settings with paths := [] }
  | (word, .operand) :: words =>
    finish surplus { settings with paths := word :: words.map Prod.fst }
  | (word, .doubleHyphen) :: words =>
    finish surplus { settings with paths := word :: words.map Prod.fst }
  | (word, .unknown) :: words => takeWords perform (surplus ++ [word]) settings words
  | (_, .option switch short attached) :: words => do
    let (uses, ending) ← orUsage (Use.ofOption switch short attached)
    match ending with
    | .complete =>
      let settings ← performAll perform settings uses
      takeWords perform surplus settings words
    | .surplus word =>
      let settings ← performAll perform settings uses
      takeWords perform (surplus ++ [word]) settings words
    | .awaits switch =>
      match words with
      | (value, .operand) :: words =>
        let settings ← performAll perform settings (uses ++ [{ switch, value }])
        takeWords perform surplus settings words
      | _ => failUsage (.missingValue switch)
where
  /-- Ends with words that are no options, if there are any. -/
  finish (surplus : List Text) (settings : Settings) : Action Settings :=
    if surplus.isEmpty then Action.done settings else failUsage (.unrecognized surplus)

/-- Takes up arguments, with argument files nested to the given depth. -/
def takeArguments (tree : FileTree) : (depth : Nat) → Settings → List Text → Action Settings
  | 0, _, _ => Action.fail .endlessArguments
  | depth + 1, settings, arguments => do
    let words ← orUsage (Reading.ofWords arguments)
    takeWords (perform tree (takeArguments tree depth)) [] settings words

/-- How deep argument files may be nested in each other. -/
def nestingBound : Nat := 160

/-- Takes up the arguments of a run. The settings they ask for are those of the
session from then on. -/
def readArguments (tree : FileTree) (arguments : List Text) : Action Settings := do
  let settings ← takeArguments tree nestingBound {} arguments
  Action.update fun session => { session with settings }
  return settings

end Session

end SuiteLint
