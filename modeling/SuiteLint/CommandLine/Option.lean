import SuiteLint.Text.Quoted

/-!
# The options of the command line

An option has a long spelling and mostly a short one. It either is a flag or takes
a value. The order in which the spellings are listed is the order in which
candidates for an abbreviation are shown.
-/

namespace SuiteLint

/-- An option of the command line. -/
inductive Switch
  /-- Show how the command is used. -/
  | help
  /-- Look only at files with this extension. -/
  | extension
  /-- Make a rule's findings errors. -/
  | error
  /-- Ignore a rule. -/
  | ignore
  /-- Make a rule's findings warnings. -/
  | warning
  /-- List the rules. -/
  | list
  /-- Describe rules. -/
  | describe
  /-- Do not show the names of files. -/
  | noFilenames
  /-- Show findings with this template. -/
  | format
  /-- Show the version. -/
  | version
  /-- Show more. -/
  | verbose
  /-- Configure a rule. -/
  | configure
  /-- Look into folders again and again. -/
  | recursive
  /-- Load a rule pack. -/
  | rulefile
  /-- Read further arguments from a file. -/
  | argumentfile
  deriving DecidableEq, Repr

namespace Switch

/-- All spellings of options, in the order in which they are listed. -/
def spellings : List (Text × Switch) := [
  ("-h", help), ("--help", help),
  ("--extension", extension), ("-E", extension),
  ("--error", error), ("-e", error),
  ("--ignore", ignore), ("-i", ignore),
  ("--warning", warning), ("-w", warning),
  ("--list", list), ("-l", list),
  ("--describe", describe), ("-d", describe),
  ("--no-filenames", noFilenames),
  ("--format", format), ("-f", format),
  ("--version", version),
  ("--verbose", verbose), ("-v", verbose),
  ("--configure", configure), ("-c", configure),
  ("--recursive", recursive), ("-r", recursive),
  ("--rulefile", rulefile), ("-R", rulefile),
  ("--argumentfile", argumentfile), ("-A", argumentfile)]

/-- The option with the given spelling. -/
def ofSpelling? (spelling : Text) : Option Switch :=
  (spellings.find? fun entry => entry.1 = spelling).map Prod.snd

/-- All spellings of one option, as an error names them. -/
def title (switch : Switch) : Text :=
  Text.joinWith "/" ((spellings.filter fun entry => entry.2 = switch).map Prod.fst)

/-- Whether an option takes a value. -/
def takesValue : Switch → Bool
  | extension | error | ignore | warning | format | configure | rulefile | argumentfile => true
  | help | list | describe | noFilenames | version | verbose | recursive => false

end Switch

/-- What can be wrong with the way options are given. -/
inductive UsageFault
  /-- The word abbreviates several options. -/
  | ambiguous (word : Text) (candidates : List Text)
  /-- The option takes a value, and none follows. -/
  | missingValue (switch : Switch)
  /-- The option takes no value, and got one. -/
  | surplusValue (switch : Switch) (value : Text)
  /-- There are no such options. -/
  | unrecognized (words : List Text)
  deriving DecidableEq, Repr

/-- The fault in words. -/
def UsageFault.message : UsageFault → Text
  | ambiguous word candidates =>
    "ambiguous option: " ++ word ++ " could match " ++ Text.joinWith ", " candidates
  | missingValue switch => "argument " ++ switch.title ++ ": expected one argument"
  | surplusValue switch value =>
    "argument " ++ switch.title ++ ": ignored explicit argument " ++ Text.quote value
  | unrecognized words => "unrecognized arguments: " ++ Text.joinWith " " words

end SuiteLint
