import SuiteLint.Text.Blank

/-!
# Decimal digits and integers

Every script with decimal digits has them as ten consecutive characters from zero
to nine, so the table below lists the zeros. An *integer literal* is a sign, or
none, and digits of any scripts, with single underscores allowed between digits;
blanks may surround it. The information separators, though blank, may not.
-/

namespace SuiteLint

namespace Text

/-- The zeros of the scripts that have decimal digits. -/
def zeros : List Nat := [
    48, 0x660, 0x6F0, 0x7C0, 0x966, 0x9E6, 0xA66, 0xAE6, 0xB66, 0xBE6, 0xC66, 0xCE6, 0xD66, 0xDE6,
    0xE50, 0xED0, 0xF20, 0x1040, 0x1090, 0x17E0, 0x1810, 0x1946, 0x19D0, 0x1A80, 0x1A90, 0x1B50,
    0x1BB0, 0x1C40, 0x1C50, 0xA620, 0xA8D0, 0xA900, 0xA9D0, 0xA9F0, 0xAA50, 0xABF0, 0xFF10,
    0x104A0, 0x10D30, 0x11066, 0x110F0, 0x11136, 0x111D0, 0x112F0, 0x11450, 0x114D0, 0x11650,
    0x116C0, 0x11730, 0x118E0, 0x11950, 0x11C50, 0x11D50, 0x11DA0, 0x16A60, 0x16AC0, 0x16B50,
    0x1D7CE, 0x1D7D8, 0x1D7E2, 0x1D7EC, 0x1D7F6, 0x1E140, 0x1E2F0, 0x1E950, 0x1FBF0]

/-- The value of a decimal digit; `none` if the character is no decimal digit. -/
def digitValue? (c : Char) : Option Nat :=
  let n := c.toNat
  if n < 128 then if 48 ≤ n && n ≤ 57 then some (n - 48) else none
  else (zeros.find? fun z => z ≤ n && n < z + 10).map (n - ·)

/-- Whether a character is a decimal digit. -/
def isDigit (c : Char) : Bool := (digitValue? c).isSome

/-- Reads the digits that remain of a literal, with the value of those before
them. `fresh` says that a digit has to follow: at the start and after an
underscore. -/
def readDigits : (fresh : Bool) → (value : Nat) → Text → Option Nat
  | fresh, value, [] => if fresh then none else some value
  | fresh, value, c :: rest =>
    match digitValue? c with
    | some d => readDigits false (10 * value + d) rest
    | none => if c = '_' ∧ ¬fresh then readDigits true value rest else none

/-- Whether a blank may surround an integer literal. -/
def isNumberMargin (c : Char) : Bool := isBlank c && !(28 ≤ c.toNat && c.toNat ≤ 31)

/-- The value of an integer literal; `none` if the text is none. It may have any number of
digits: a limit on how many digits are read is left out. -/
def readInt? (text : Text) : Option Int :=
  match dropEndWhile isNumberMargin (text.dropWhile isNumberMargin) with
  | '-' :: digits => (readDigits true 0 digits).map fun n => -(n : Int)
  | '+' :: digits => (readDigits true 0 digits).map fun n => (n : Int)
  | digits => (readDigits true 0 digits).map fun n => (n : Int)

end Text

end SuiteLint
