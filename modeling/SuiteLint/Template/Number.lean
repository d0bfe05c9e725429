import SuiteLint.Template.Layout

/-!
# Laying out integers

An integer can be shown in decimal, binary, octal or hexadecimal, as the character
it is the code of, or as a binary floating point number in fixed, scientific or
general notation or as a percentage. For the last four it is first rounded to the
nearest number with a significand of 53 bits, which is still an integer, so all of
this is exact integer arithmetic. Whenever a number lies halfway between two that
could stand for it, the even one is taken.
-/

namespace SuiteLint

namespace Template

/-! ### Rounding -/

/-- The quotient rounded to the nearest integer, a half to the even one. -/
def roundDiv (n d : Nat) : Nat :=
  let q := n / d
  let r := n % d
  if 2 * r > d ∨ (2 * r = d ∧ q % 2 = 1) then q + 1 else q

/-- The nearest number with a significand of 53 bits; `none` if it has more than
1024 bits. -/
def toBinary64 (n : Nat) : Option Nat :=
  let m :=
    if n < Nat.pow 2 53 then n
    else
      let unit := Nat.pow 2 (Nat.log2 n - 52)
      roundDiv n unit * unit
  if m < Nat.pow 2 1024 then some m else none

/-- The first `count` significant digits of a number and the exponent of the first
one, rounded. Zero has all digits zero. -/
def significant (count n : Nat) : Text × Nat :=
  let digits := Text.ofNat n
  if digits.length ≤ count then
    (digits ++ List.replicate (count - digits.length) '0', digits.length - 1)
  else
    let rounded := Text.ofNat (roundDiv n (Nat.pow 10 (digits.length - count)))
    if rounded.length > count then (rounded.take count, digits.length)
    else (rounded, digits.length - 1)

/-! ### Notations

The digits before the point and all that follows them are given apart, since
groups are formed of the former only. -/

/-- What follows the digits before the point: the point, unless nothing follows it
and it is not asked for, and the digits after it. -/
def fraction (alternate : Bool) (digits : Text) : Text :=
  if digits.isEmpty && !alternate then [] else '.' :: digits

/-- Scientific notation with the given number of digits after the point. -/
def scientific (alternate : Bool) (mark : Char) (places n : Nat) : Text × Text :=
  let (digits, exponent) := significant (places + 1) n
  let power := Text.ofNat exponent
  (digits.take 1,
    fraction alternate (digits.drop 1) ++ [mark, '+'] ++
      List.replicate (2 - power.length) '0' ++ power)

/-- Fixed notation with the given number of digits after the point. -/
def fixed (alternate : Bool) (places n : Nat) : Text × Text :=
  (Text.ofNat n, fraction alternate (List.replicate places '0'))

/-- General notation with the given number of significant digits: fixed if the
number has no more digits than that, otherwise scientific. Zeros at the end of the
fraction are left out unless the alternate form is asked for. -/
def general (alternate : Bool) (mark : Char) (count n : Nat) : Text × Text :=
  let (digits, exponent) := significant count n
  if exponent < count then
    fixed alternate (if alternate then count - 1 - exponent else 0) n
  else
    let later := if alternate then digits.drop 1 else Text.dropEndWhile (· = '0') (digits.drop 1)
    let power := Text.ofNat exponent
    (digits.take 1,
      fraction alternate later ++ [mark, '+'] ++
        List.replicate (2 - power.length) '0' ++ power)

/-! ### Groups of digits -/

/-- Puts a separator after every `size` digits of a number that is read from its
last digit on; `count` digits have been passed. -/
def separateFrom (separator : Char) (size count : Nat) : Text → Text
  | [] => []
  | c :: rest =>
    if count ≠ 0 ∧ count % size = 0 then
      separator :: c :: separateFrom separator size (count + 1) rest
    else c :: separateFrom separator size (count + 1) rest

/-- The number of digits in groups of `size` that, with the separators between the
groups, take at least the given width. -/
def digitsFor (size width : Nat) : Nat :=
  let whole := width / (size + 1)
  let part := width % (size + 1)
  if part = 0 then (if whole = 0 then 0 else whole * size + 1) else whole * size + part

/-- The digits with zeros in front up to a width, in groups if there is a
separator. -/
def group (separator : Option Char) (size width : Nat) (digits : Text) : Text :=
  let zeros (count : Nat) : Text := List.replicate (count - digits.length) '0'
  match separator with
  | none => zeros width ++ digits
  | some c => (separateFrom c size 0 (zeros (digitsFor size width) ++ digits).reverse).reverse

/-! ### Laying out -/

/-- The sign of a number. -/
def signText (style : Option SignStyle) (n : Int) : Text :=
  if n < 0 then "-"
  else
    match style with
    | some .plus => "+"
    | some .space => " "
    | _ => ""

/-- Lays out a number from what comes before its digits, its digits, and what
comes after them. -/
def Layout.number (layout : Layout) (lead digits tail : Text) : Text :=
  let least :=
    if layout.fill = '0' ∧ layout.side = .afterSign then
      layout.width - (lead.length + tail.length)
    else 0
  let size := if "boxX".toList.contains layout.style then 4 else 3
  let grouped := if digits.isEmpty then [] else group layout.separator size least digits
  layout.pad lead (grouped ++ tail)

/-- Lays out an integer in a whole-number style: with what base, what its digits
are introduced by, and how they are written. -/
def Layout.whole (layout : Layout) (base : Nat) (intro : Text) (write : Char → Char) (n : Int) :
    Text :=
  let lead := signText layout.sign n ++ if layout.alternate then intro else []
  layout.number lead ((Nat.toDigits base n.natAbs).map write) []

/-- The character with the given code. -/
def Layout.character (layout : Layout) (n : Int) : Except Fault Text := do
  if layout.sign.isSome then throw .signForCharacter
  if layout.alternate then throw .alternateCharacter
  if n < -(Nat.pow 2 63 : Int) ∨ (Nat.pow 2 63 : Int) ≤ n then throw .noMachineWord
  if n < 0 ∨ 0x110000 ≤ n then throw .noCodePoint
  return layout.number [] [] [Char.ofNat n.toNat]

/-- Lays out an integer in a floating-point style. -/
def Layout.floating (layout : Layout) (n : Int) : Except Fault Text := do
  let some m := toBinary64 n.natAbs | throw .tooLarge
  let places := layout.precision.getD 6
  if Nat.pow 2 31 ≤ places then throw .precisionTooBig
  let lead := signText layout.sign n
  let alternate := layout.alternate
  let shown (parts : Text × Text) (unit : Text) : Text :=
    layout.number lead parts.1 (parts.2 ++ unit)
  match layout.style with
  | 'e' => return shown (scientific alternate 'e' places m) []
  | 'E' => return shown (scientific alternate 'E' places m) []
  | 'g' => return shown (general alternate 'e' (max places 1) m) []
  | 'G' => return shown (general alternate 'E' (max places 1) m) []
  | '%' =>
    match toBinary64 (100 * m) with
    | some p => return shown (fixed alternate places p) "%"
    | none => return shown ([], "inf") "%"
  | _ => return shown (fixed alternate places m) []

/-- Lays out an integer. -/
def Layout.integer (layout : Layout) (n : Int) : Except Fault Text := do
  if "eEfFgG%".toList.contains layout.style then layout.floating n
  else if "dnboxXc".toList.contains layout.style then
    if layout.precision.isSome then throw .precisionForNumber
    if layout.zeroSign then throw .zeroSignForNumber
    match layout.style with
    | 'b' => return layout.whole 2 "0b" id n
    | 'o' => return layout.whole 8 "0o" id n
    | 'x' => return layout.whole 16 "0x" id n
    | 'X' => return layout.whole 16 "0X" Char.toUpper n
    | 'c' => layout.character n
    | _ => return layout.whole 10 [] id n
  else throw (.unknownStyle layout.style .number)

/-- Lays out a text. -/
def Layout.text (layout : Layout) (text : Text) : Except Fault Text := do
  if layout.style ≠ 's' then throw (.unknownStyle layout.style .text)
  match layout.sign with
  | some .space => throw .spaceForText
  | some _ => throw .signForText
  | none => pure ()
  if layout.zeroSign then throw .zeroSignForText
  if layout.alternate then throw .alternateText
  if layout.side = .afterSign then throw .padAfterSignOfText
  let shown :=
    match layout.precision with
    | some n => text.take n
    | none => text
  return layout.pad [] shown

end Template

end SuiteLint
