import SuiteLint.Text.Lines

/-!
# Trimming a rule's description

A description is written as a block of text inside indented code. It is shown
without that indentation: the first line is stripped, every later line loses the
margin that all later lines share and the blanks at its end, and blank lines at
the two ends are dropped. Tabs count as the spaces they stand for. What is kept is
the indentation of the later lines relative to each other.
-/

namespace SuiteLint

namespace Doc

/-- The number of blanks that a line begins with; `none` for a blank line. -/
def indent? (line : Text) : Option Nat :=
  let stripped := Text.stripLeft line
  if stripped.isEmpty then none else some (line.length - stripped.length)

/-- The least number of blanks that a line begins with, over the lines that are
not blank; `none` if all are blank. -/
def margin? (lines : List Text) : Option Nat := (lines.filterMap indent?).min?

/-- The later lines without their margin. If all of them are blank there is no
margin, and none of them is kept. -/
def trimLater (lines : List Text) : List Text :=
  match margin? lines with
  | none => []
  | some n => lines.map fun line => Text.stripRight (line.drop n)

/-- The lines without the empty ones at the two ends. -/
def dropEmptyEnds (lines : List Text) : List Text :=
  ((lines.reverse.dropWhile List.isEmpty).reverse).dropWhile List.isEmpty

/-- The lines of a description as they are shown. -/
def trimLines (written : Text) : List Text :=
  match Text.lines (Text.expandTabs written) with
  | [] => []
  | first :: later => dropEmptyEnds (Text.strip first :: trimLater later)

/-- A description as it is shown. -/
def trim (written : Text) : Text := Text.joinWith "\n" (trimLines written)

end Doc

end SuiteLint
