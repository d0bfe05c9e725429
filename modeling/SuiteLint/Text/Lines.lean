import SuiteLint.Text.Blank

/-!
# Lines and tab stops

A line ends at a newline, a carriage return, the two of them together, a vertical
tab, a form feed, one of the first three information separators, the next-line
control, or a line or paragraph separator. The text after the last line break is a
line only if there is some.
-/

namespace SuiteLint

namespace Text

/-- Whether a character ends a line. -/
def isLineBreak (c : Char) : Bool :=
  let n := c.toNat
  (10 ≤ n && n ≤ 13) || (28 ≤ n && n ≤ 30) || n == 0x85 || n == 0x2028 || n == 0x2029

/-- The lines of a text, without their line breaks. -/
def lines : Text → List Text
  | [] => []
  | '\r' :: '\n' :: rest => [] :: lines rest
  | c :: rest =>
    if isLineBreak c then [] :: lines rest
    else
      match lines rest with
      | [] => [[c]]
      | first :: others => (c :: first) :: others

/-- Replaces the tabs of a text that begins at the given column. -/
def expandTabsFrom : (column : Nat) → Text → Text
  | _, [] => []
  | column, c :: rest =>
    if c = '\t' then
      let width := 8 - column % 8
      List.replicate width ' ' ++ expandTabsFrom (column + width) rest
    else if c = '\n' ∨ c = '\r' then c :: expandTabsFrom 0 rest
    else c :: expandTabsFrom (column + 1) rest

/-- The text with each tab replaced by the spaces that lead to the next multiple
of eight columns. Newlines and carriage returns begin a new line of columns. -/
def expandTabs (text : Text) : Text := expandTabsFrom 0 text

end Text

end SuiteLint
