import SuiteLint.Template.Fault
import SuiteLint.Text.Digit

/-!
# Layouts

A field may say how its value is laid out: padded with a fill character to a
width, on which side, with which sign, with separators between groups of digits,
with which precision and in which style. `Layout.read` reads this from the text
after the colon. Each part may be missing, but those that are there come in a
fixed order:

    fill and side, sign, z, #, 0, width, separator, precision, style

A zero in front of the width is the fill character 0 and, for numbers, puts the
padding after the sign.
-/

namespace SuiteLint

namespace Template

/-- Where a value stands in its field. -/
inductive Side
  /-- At the left. -/
  | left
  /-- At the right. -/
  | right
  /-- In the middle. -/
  | center
  /-- At the right, with the padding between the sign and the digits. -/
  | afterSign
  deriving DecidableEq, Repr

/-- The side that a character stands for. -/
def Side.ofChar? (c : Char) : Option Side :=
  if c = '<' then some left
  else if c = '>' then some right
  else if c = '^' then some center
  else if c = '=' then some afterSign
  else none

/-- How a number that is not negative shows its sign. -/
inductive SignStyle
  /-- Not at all. -/
  | minus
  /-- With a plus sign. -/
  | plus
  /-- With a space. -/
  | space
  deriving DecidableEq, Repr

/-- The sign style that a character stands for. -/
def SignStyle.ofChar? (c : Char) : Option SignStyle :=
  if c = '-' then some minus
  else if c = '+' then some plus
  else if c = ' ' then some space
  else none

/-- How a value is laid out. -/
structure Layout where
  /-- What the field is filled up with. -/
  fill : Char
  /-- Where the value stands. -/
  side : Side
  /-- How the sign is shown. -/
  sign : Option SignStyle
  /-- Whether a zero never gets a minus sign. -/
  zeroSign : Bool
  /-- Whether the alternate form is asked for. -/
  alternate : Bool
  /-- The least number of characters. -/
  width : Nat
  /-- What divides groups of digits. -/
  separator : Option Char
  /-- How precisely the value is shown. -/
  precision : Option Nat
  /-- In which style the value is shown. -/
  style : Char
  deriving DecidableEq, Repr

/-- The greatest number that a template may hold. -/
def numberBound : Nat := Nat.pow 2 63 - 1

/-- Reads a number from the front of a text, given the value of the digits before
it. -/
def readNumberFrom (value : Nat) : Text → Except Fault (Nat × Text)
  | [] => .ok (value, [])
  | c :: rest =>
    match Text.digitValue? c with
    | none => .ok (value, c :: rest)
    | some d =>
      if value > (numberBound - d) / 10 then .error .tooManyDigits
      else readNumberFrom (10 * value + d) rest

/-- Reads a number from the front of a text; `none` if it does not begin with a
digit. -/
def readNumber (text : Text) : Except Fault (Option Nat × Text) := do
  match text with
  | [] => return (none, [])
  | c :: _ =>
    if Text.isDigit c then
      let (n, rest) ← readNumberFrom 0 text
      return (some n, rest)
    else return (none, text)

/-- The number that a whole text is, in decimal digits; `none` if it is empty or
has another character. -/
def wholeNumber (text : Text) : Except Fault (Option Nat) := do
  if text.isEmpty then return none
  let (n, rest) ← readNumberFrom 0 text
  return if rest.isEmpty then some n else none

/-- Reads the fill character and the side. A fill character is one that a side
follows. -/
def readSide : Text → Option Char × Option Side × Text
  | [] => (none, none, [])
  | [c] =>
    match Side.ofChar? c with
    | some side => (none, some side, [])
    | none => (none, none, [c])
  | c :: d :: rest =>
    match Side.ofChar? d, Side.ofChar? c with
    | some side, _ => (some c, some side, rest)
    | none, some side => (none, some side, d :: rest)
    | none, none => (none, none, c :: d :: rest)

/-- Reads the sign style. -/
def readSign : Text → Option SignStyle × Text
  | [] => (none, [])
  | c :: rest =>
    match SignStyle.ofChar? c with
    | some sign => (some sign, rest)
    | none => (none, c :: rest)

/-- Reads a character if it comes first, and says whether it did. -/
def readMark (mark : Char) : Text → Bool × Text
  | [] => (false, [])
  | c :: rest => if c = mark then (true, rest) else (false, c :: rest)

/-- Reads the separator of digit groups. -/
def readSeparator (text : Text) : Except Fault (Option Char × Text) := do
  let (comma, rest) := readMark ',' text
  let (underscore, rest) := readMark '_' rest
  if comma && underscore then throw .twoSeparators
  if underscore && (readMark ',' rest).1 then throw .twoSeparators
  return (if comma then some ',' else if underscore then some '_' else none, rest)

/-- Reads the precision. -/
def readPrecision (text : Text) : Except Fault (Option Nat × Text) := do
  match text with
  | '.' :: rest =>
    match ← readNumber rest with
    | (none, _) => throw .missingPrecision
    | (some n, rest) => return (some n, rest)
  | _ => return (none, text)

/-- Whether a separator of digit groups goes with a style. -/
def goesWith (separator style : Char) : Bool :=
  "defgEG%F".toList.contains style || (separator == '_' && "boxX".toList.contains style)

/-- The style of a value whose layout names none. -/
def Kind.style : Kind → Char
  | text => 's'
  | number => 'd'

/-- The side of a value whose layout names none: a text stands at the left, a
number at the right, after the zeros if it is filled up with them. -/
def Kind.side (zero : Bool) : Kind → Side
  | text => .left
  | number => if zero then .afterSign else .right

/-- Reads a layout for a value of the given kind. -/
def Layout.read (kind : Kind) (text : Text) : Except Fault Layout := do
  let (fill, side, rest) := readSide text
  let (sign, rest) := readSign rest
  let (zeroSign, rest) := readMark 'z' rest
  let (alternate, rest) := readMark '#' rest
  let (zero, rest) := if fill.isSome then (false, rest) else readMark '0' rest
  let (width, rest) ← readNumber rest
  let (separator, rest) ← readSeparator rest
  let (precision, rest) ← readPrecision rest
  let style ←
    match rest with
    | [] => pure kind.style
    | [style] => pure style
    | _ => throw (.unreadableLayout text kind)
  match separator with
  | none => pure ()
  | some separator =>
    if goesWith separator style then pure () else throw (.separatorWith separator style)
  return {
    fill := if zero then '0' else fill.getD ' '
    side := side.getD (kind.side zero)
    sign, zeroSign, alternate, width := width.getD 0, separator, precision, style }

/-! ### Padding -/

/-- Fills a text up to a width. What stands in front of the digits of a number is
given apart, since padding may come after it. -/
def Layout.pad (layout : Layout) (lead body : Text) : Text :=
  let missing := layout.width - (lead.length + body.length)
  let filler (n : Nat) : Text := List.replicate n layout.fill
  match layout.side with
  | .left => lead ++ body ++ filler missing
  | .right => filler missing ++ lead ++ body
  | .center => filler (missing / 2) ++ lead ++ body ++ filler (missing - missing / 2)
  | .afterSign => lead ++ filler missing ++ body

end Template

end SuiteLint
