import SuiteLint.Position
import SuiteLint.Text.Blank
import SuiteLint.Text.Case

/-!
# Rows

A line of a file is cut into cells. Two formats are in use, and each line says for
itself which one it is in. A line that begins with a vertical bar, followed by a
gap or nothing, is *piped*: its cells stand between bars with gaps around them, and
are stripped. Any other line is *spaced*: its cells stand between gaps of two or
more characters or of a tab. A gap character is a space, a tab or a no-break space.

A line always has at least one cell, and a spaced line that begins with a gap has
an empty first cell.
-/

namespace SuiteLint

/-- A line of a file, cut into cells. -/
structure Row where
  /-- The number of the line. -/
  line : Int
  /-- The line as a whole. -/
  raw : Text
  /-- The cells. -/
  cells : List Text
  deriving DecidableEq, Repr

namespace Row

/-! ### Cutting a line into cells -/

/-- Whether a character can stand between cells. -/
def isGap (c : Char) : Bool := c = ' ' || c = '\t' || c = Text.noBreakSpace

/-- Whether a text begins with a gap character. -/
def beginsWithGap : Text → Bool
  | [] => false
  | c :: _ => isGap c

/-- Whether a line is in the piped format. -/
def isPiped : Text → Bool
  | ['|'] => true
  | '|' :: rest => beginsWithGap rest
  | _ => false

/-- The length of the separator that a piped text begins with: a gap and a bar that
another gap follows. -/
def pipeGap (text : Text) : Nat :=
  let gap := text.takeWhile isGap
  match text.dropWhile isGap with
  | '|' :: rest => if !gap.isEmpty && beginsWithGap rest then gap.length + 1 else 0
  | _ => 0

/-- The length of the separator that a spaced text begins with: a gap of two or
more characters or a tab. -/
def spaceGap (text : Text) : Nat :=
  match text.takeWhile isGap with
  | [] => 0
  | [c] => if c = '\t' then 1 else 0
  | gap => gap.length

/-- Whether a text ends with a gap character and a bar. -/
def endsWithPipe (text : Text) : Bool :=
  match text.reverse with
  | '|' :: c :: _ => isGap c
  | _ => false

/-- What stands between the outer bars of a piped line. The closing bar may be
missing. -/
def insidePipes (text : Text) : Text :=
  if endsWithPipe text then (text.drop 1).dropLast else text.drop 1

/-- The cells of a line. -/
def cut (text : Text) : List Text :=
  if isPiped text then (Text.cutBy pipeGap (insidePipes text)).map Text.strip
  else Text.cutBy spaceGap text

theorem cut_ne_nil (text : Text) : cut text ≠ [] := by
  unfold cut
  split
  · simpa using Text.cutBy_ne_nil pipeGap (insidePipes text)
  · exact Text.cutBy_ne_nil spaceGap text

/-- A line as it is kept: with spaces for no-break spaces, and without the blanks
at its end. -/
def clean (text : Text) : Text :=
  Text.stripRight (Text.replaceChar Text.noBreakSpace ' ' text)

/-- The row of a line of text, which may still have its newline. -/
def ofLine (line : Int) (text : Text) : Row :=
  { line, raw := clean text, cells := cut (clean text) }

/-! ### Looking at cells -/

/-- The first cell, in small letters. -/
def label (row : Row) : Except Fault Text :=
  match row.cells with
  | [] => .error .noItem
  | cell :: _ => .ok (Text.lower cell)

/-- Whether the first cell is neither empty nor a comment. In a table of blocks
such a row opens a block, in a table of variables it holds one. -/
def isLabelled (row : Row) : Bool :=
  match row.cells with
  | [] => false
  | cell :: _ => !cell.isEmpty && !Text.isRemark cell

/-! ### Showing a row -/

/-- The cells between bars, as they are. -/
def piped (row : Row) : Text := "| " ++ Text.joinWith " | " row.cells

/-- The cells between bars, stripped. -/
def strippedPiped (row : Row) : Text :=
  "|" ++ Text.joinWith " | " (row.cells.map Text.strip)

/-- The number of the row and its cells, quoted. -/
def summary (row : Row) : Text :=
  "<line: " ++ Text.ofInt row.line ++ " cells: " ++ Text.quoteList row.cells ++ ">"

end Row

end SuiteLint
