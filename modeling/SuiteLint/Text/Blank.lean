import SuiteLint.Text

/-!
# Blank characters

A character is *blank* if it is white space: the controls for tabs, line and page
breaks, the four information separators, the space, the next-line control, the
no-break space and the spaces and separators of the typographic blocks. The zero
width space, the byte order mark and the Mongolian vowel separator are not blank.

Stripping removes blank characters from the ends of a text and from nowhere else.
-/

namespace SuiteLint

namespace Text

/-- Whether a character is white space. -/
def isBlank (c : Char) : Bool :=
  let n := c.toNat
  (9 ≤ n && n ≤ 13) || (28 ≤ n && n ≤ 32) || n == 0x85 || n == 0xA0 || n == 0x1680 ||
    (0x2000 ≤ n && n ≤ 0x200A) || n == 0x2028 || n == 0x2029 || n == 0x202F || n == 0x205F ||
    n == 0x3000

/-- The no-break space. -/
def noBreakSpace : Char := Char.ofNat 0xA0

/-- The text without the blanks it begins with. -/
def stripLeft (text : Text) : Text := text.dropWhile isBlank

/-- The text without the blanks it ends with. -/
def stripRight (text : Text) : Text := dropEndWhile isBlank text

/-- The text without the blanks at its two ends. -/
def strip (text : Text) : Text := stripRight (stripLeft text)

/-- The longest run of blanks that ends the text. -/
def blankEnd (text : Text) : Text := (text.reverse.takeWhile isBlank).reverse

/-- Whether the first character that is not blank is a number sign: such a cell is
a comment. -/
def isRemark (text : Text) : Bool := startsWith (stripLeft text) "#"

end Text

end SuiteLint
