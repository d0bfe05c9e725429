import SuiteLint.Text.Blank
import SuiteLint.Text.Case
import SuiteLint.Text.Lines

/-!
# Argument files

An argument file has one argument on each line, or an option together with its
value. Lines are stripped; empty lines and lines that begin with a number sign are
skipped. A line that begins with a hyphen is cut in two at its first space or
equals sign, whichever comes first.

Arguments may name an argument file again: with the long option, in any case of
letters, or with the short one, to which the path may be joined. The long option is
looked for first, wherever it stands.
-/

namespace SuiteLint

namespace ArgumentFile

/-- Cuts a line with an option at the first space or equals sign. A value after a
space is stripped. -/
def cutOption : Text → List Text
  | [] => [[]]
  | ' ' :: rest => [[], Text.strip rest]
  | '=' :: rest => [[], rest]
  | c :: rest => (cutOption rest).modifyHead (c :: ·)

/-- The arguments on a line. -/
def ofLine (line : Text) : List Text :=
  let stripped := Text.strip line
  if Text.startsWith stripped "-" then cutOption stripped
  else if stripped.isEmpty || Text.startsWith stripped "#" then []
  else [stripped]

/-- The arguments in a file with the given text. -/
def arguments (text : Text) : List Text := (Text.lines text).flatMap ofLine

/-- Arguments, cut at the place where one names an argument file. -/
structure Mention where
  /-- The arguments before it. -/
  before : List Text
  /-- The path of the argument file. -/
  path : Text
  /-- The arguments after it. -/
  after : List Text
  deriving DecidableEq, Repr

/-- The first argument that is the given option, with a value in the next argument
or, after `joint`, in the same one. Arguments are compared as `fold` makes them. -/
def mention? (fold : Text → Text) (option joint : Text) : List Text → Option Mention
  | [] => none
  | argument :: rest =>
    let later := (mention? fold option joint rest).map fun m =>
      { m with before := argument :: m.before }
    let attached :=
      if Text.startsWith (fold argument) joint then some ⟨[], argument.drop joint.length, rest⟩
      else later
    match rest with
    | path :: others => if fold argument = option then some ⟨[], path, others⟩ else attached
    | [] => attached

/-- The mention of an argument file that is to be replaced next. A path that is
empty is none. -/
def nextMention? (arguments : List Text) : Option Mention :=
  let found :=
    mention? Text.lower "--argumentfile" "--argumentfile=" arguments
      <|> mention? id "-A" "-A" arguments
  found.filter (!·.path.isEmpty)

end ArgumentFile

end SuiteLint
