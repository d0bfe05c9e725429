import SuiteLint.Text.CaseRanges

/-!
# Letter case

Names are compared in small letters. Lowering a text replaces each letter by its
small form, one character for one, with two exceptions: the dotted capital I
becomes a small i and a combining dot, and a capital sigma that ends a word
becomes the final form of the small letter. A sigma ends a word when, passing
over case-ignorable characters, a letter with case comes before it and none comes
after it.
-/

namespace SuiteLint

namespace Text

/-- Whether a character is a capital letter. -/
def isCapital (c : Char) : Bool :=
  let n := c.toNat
  if n < 128 then 65 ≤ n && n ≤ 90 else capitalRuns.any (·.has n)

/-- Whether a character is a small letter or a title-case letter. -/
def isSmall (c : Char) : Bool :=
  let n := c.toNat
  if n < 128 then 97 ≤ n && n ≤ 122 else smallRuns.any (·.has n)

/-- Whether a character may stand inside a word without ending it. -/
def isIgnorable (c : Char) : Bool := within ignorableBounds c.toNat

/-- Whether a text has a capital letter, and no small or title-case letter. -/
def isAllCapitals (text : Text) : Bool := text.any isCapital && !text.any isSmall

/-- The capital sigma. -/
def sigma : Char := Char.ofNat 0x3A3

/-- Whether the first character that is not case-ignorable is a letter with case. -/
def meetsLetter (text : Text) : Bool :=
  match text.dropWhile isIgnorable with
  | [] => false
  | c :: _ => isCapital c || isSmall c

/-- The small form of a character that stands between `before`, read backwards,
and `after`. -/
def lowerChar (before : Text) (c : Char) (after : Text) : Text :=
  let n := c.toNat
  if n < 128 then [if 65 ≤ n ∧ n ≤ 90 then Char.ofNat (n + 32) else c]
  else if c = sigma then
    [Char.ofNat (if meetsLetter before && !meetsLetter after then 0x3C2 else 0x3C3)]
  else if n = 0x130 then ['i', Char.ofNat 0x307]
  else
    match loweringRuns.find? fun run => run.1.has n with
    | some (_, distance) => [Char.ofNat (n + distance).toNat]
    | none => [c]

/-- The small form of a text that follows `before`, read backwards. -/
def lowerAfter : (before : Text) → Text → Text
  | _, [] => []
  | before, c :: after => lowerChar before c after ++ lowerAfter (c :: before) after

/-- The text in small letters. -/
def lower (text : Text) : Text := lowerAfter [] text

/-- Whether two texts agree in small letters. -/
def sameFolded (a b : Text) : Bool := lower a == lower b

end Text

end SuiteLint
