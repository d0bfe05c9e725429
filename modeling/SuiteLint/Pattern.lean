import SuiteLint.Position
import SuiteLint.Text.Blank

/-!
# Patterns of headings and table names

A table begins with a heading: asterisks, a name, and perhaps more asterisks. What
kind of table it is depends on how its name begins. This file has the six patterns
that decide such questions. Each is matched against the beginning of a text, and a
match says what was matched as a whole and, by number, which parts of it.

Letters may be compared without regard to case. Then the long s and the Kelvin sign
count as s and k, and the dotted capital and dotless small I as i.
-/

namespace SuiteLint

/-- A pattern of a heading or of the name of a table. -/
inductive Pattern
  /-- A heading, with the name as its part. -/
  | heading
  /-- The beginning of the name of a table of settings. -/
  | settings
  /-- The beginning of the name of a table of variables. -/
  | globals
  /-- The beginning of the name of a table of test cases. -/
  | testCases
  /-- The beginning of the name of a table of keywords, with a word before it as
  its part. -/
  | keywords
  /-- The whole name of any table, with the name and words before it as its parts. -/
  | tableName
  deriving DecidableEq, Repr

namespace Pattern

/-- What a pattern matched. -/
structure Match where
  /-- All that was matched. -/
  whole : Text
  /-- The parts, of which some may have had nothing to match. -/
  parts : List (Option Text)
  deriving DecidableEq, Repr

/-- What was matched as a whole, for the number 0, or the part of a number from 1
on. -/
def Match.group (m : Match) (number : Int) : Except Fault (Option Text) :=
  if number < 0 then .error .noGroup
  else
    match (some m.whole :: m.parts)[number.toNat]? with
    | some part => .ok part
    | none => .error .noGroup

/-! ### Words -/

/-- Whether a character of a text matches a small letter or space of a pattern. -/
def sameLetter (fold : Bool) (letter c : Char) : Bool :=
  c == letter || (fold &&
    ((letter ≠ ' ' && c.toNat + 32 == letter.toNat) ||
      (letter == 's' && c.toNat == 0x17F) ||
      (letter == 'k' && c.toNat == 0x212A) ||
      (letter == 'i' && (c.toNat == 0x130 || c.toNat == 0x131))))

/-- Matches a word against the beginning of a text: what matched, and what follows
it. -/
def word (fold : Bool) : (letters : Text) → Text → Option (Text × Text)
  | [], text => some ([], text)
  | _ :: _, [] => none
  | a :: letters, c :: text =>
    if sameLetter fold a c then (word fold letters text).map fun (m, rest) => (c :: m, rest)
    else none

/-- Matches a word or nothing. -/
def optionally (fold : Bool) (letters text : Text) : Option Text × Text :=
  match word fold letters text with
  | some (m, rest) => (some m, rest)
  | none => (none, text)

/-- Matches a word, perhaps with a plural s. -/
def noun (fold : Bool) (letters text : Text) : Option (Text × Text) :=
  (word fold letters text).map fun (m, rest) =>
    match optionally fold "s" rest with
    | (some s, rest) => (m ++ s, rest)
    | (none, rest) => (m, rest)

/-- Matches a word, perhaps with a plural s, and perhaps after another word, which
becomes a part. -/
def nounAfter (fold : Bool) (before letters text : Text) : Option (Text × Option Text × Text) :=
  let (lead, rest) := optionally fold before text
  (noun fold letters rest).map fun (m, rest) => (lead.getD [] ++ m, lead, rest)

/-- Whether nothing follows but, perhaps, a newline. -/
def atEnd : Text → Bool
  | [] => true
  | ['\n'] => true
  | _ => false

/-! ### Headings -/

/-- Whether a text has a newline other than at its end. -/
def hasInnerNewline : Text → Bool
  | [] => false
  | c :: rest => (c = '\n' && !rest.isEmpty) || hasInnerNewline rest

/-- The text without a newline at its end. -/
def dropFinalNewline (text : Text) : Text :=
  if Text.endsWith text "\n" then text.dropLast else text

/-- Whether a character can follow the name in a heading. -/
def isTrim (c : Char) : Bool := c = ' ' || c = '*'

/-- Matches a heading: blanks, asterisks, blanks, the name, and perhaps spaces and
asterisks. Neither the name nor what follows it may have a newline in it. -/
def heading? (text : Text) : Option Match :=
  let margin := text.takeWhile Text.isBlank
  let inner := text.dropWhile Text.isBlank
  let stars := inner.takeWhile (· = '*')
  let afterStars := inner.dropWhile (· = '*')
  let gap := afterStars.takeWhile Text.isBlank
  let rest := afterStars.dropWhile Text.isBlank
  if stars.isEmpty || hasInnerNewline rest then none
  else
    let line := dropFinalNewline rest
    some ⟨margin ++ stars ++ gap ++ line, [some (Text.dropEndWhile isTrim line)]⟩

/-! ### Matching -/

/-- Matches the whole name of a table. -/
def tableName? (fold : Bool) (text : Text) : Option Match :=
  let plain (found : Option (Text × Text)) : Option Match :=
    match found with
    | some (m, rest) => if atEnd rest then some ⟨m, [some m, none, none]⟩ else none
    | none => none
  let after (place : Option Text → List (Option Text))
      (found : Option (Text × Option Text × Text)) : Option Match :=
    match found with
    | some (m, lead, rest) => if atEnd rest then some ⟨m, some m :: place lead⟩ else none
    | none => none
  plain (noun fold "setting" text)
    <|> plain (word fold "metadata" text)
    <|> after (fun lead => [lead, none]) (nounAfter fold "test " "case" text)
    <|> after (fun lead => [none, lead]) (nounAfter fold "user " "keyword" text)
    <|> plain (noun fold "variable" text)

/-- Matches a pattern against the beginning of a text, with or without regard to
case. -/
def match? (pattern : Pattern) (fold : Bool) (text : Text) : Option Match :=
  match pattern with
  | heading => heading? text
  | settings =>
    (noun fold "setting" text <|> word fold "metadata" text).map fun (m, _) => ⟨m, []⟩
  | globals => (noun fold "variable" text).map fun (m, _) => ⟨m, []⟩
  | testCases =>
    (word fold "test" text).bind fun (test, rest) =>
      let (space, rest) := optionally fold " " rest
      (noun fold "case" rest).map fun (m, _) => ⟨test ++ space.getD [] ++ m, []⟩
  | keywords =>
    (nounAfter fold "user " "keyword" text).map fun (m, lead, _) => ⟨m, [lead]⟩
  | tableName => tableName? fold text

/-- Whether a text begins with a pattern, without regard to case. -/
def begins (pattern : Pattern) (text : Text) : Bool := (pattern.match? true text).isSome

end Pattern

end SuiteLint
