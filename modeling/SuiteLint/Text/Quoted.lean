import SuiteLint.Text.Printable

/-!
# Quoted text

Where a message shows a text that could be anything, it shows it in quotation
marks. The marks are single unless the text has a single one and no double one.
Inside, the backslash, the mark, tab, newline and carriage return have short
escapes, and every other character that is not printable is written as a
hexadecimal escape of two, four or eight digits, the fewest that hold it.
-/

namespace SuiteLint

namespace Text

/-- The number in hexadecimal with small letters, with zeros in front up to the
given width. -/
def hex (width n : Nat) : Text :=
  let digits := Nat.toDigits 16 n
  List.replicate (width - digits.length) '0' ++ digits

/-- The hexadecimal escape of a character. -/
def hexEscape (c : Char) : Text :=
  let n := c.toNat
  if n < 0x100 then "\\x" ++ hex 2 n
  else if n < 0x10000 then "\\u" ++ hex 4 n
  else "\\U" ++ hex 8 n

/-- A character as it is written between two marks, where `plain` characters stand
for themselves. -/
def escapeChar (plain : Char → Bool) (mark c : Char) : Text :=
  if c = mark ∨ c = '\\' then ['\\', c]
  else if c = '\t' then "\\t"
  else if c = '\n' then "\\n"
  else if c = '\r' then "\\r"
  else if plain c then [c]
  else hexEscape c

/-- The mark that a text is quoted with. -/
def quoteMark (text : Text) : Char :=
  if text.contains '\'' && !text.contains '"' then '"' else '\''

/-- The text in quotation marks, where `plain` characters stand for themselves. -/
def quoteWith (plain : Char → Bool) (text : Text) : Text :=
  let mark := quoteMark text
  mark :: text.flatMap (escapeChar plain mark) ++ [mark]

/-- The text in quotation marks. -/
def quote (text : Text) : Text := quoteWith isPrintable text

/-- The text in quotation marks, with every character from 128 on escaped. -/
def quoteBasic (text : Text) : Text :=
  quoteWith (fun c => isPrintable c && c.toNat < 128) text

/-- Quoted texts between brackets, with a comma and a space between each two. -/
def quoteList (texts : List Text) : Text := "[" ++ joinWith ", " (texts.map quote) ++ "]"

end Text

end SuiteLint
