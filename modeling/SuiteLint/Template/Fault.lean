import SuiteLint.Text.Quoted

/-!
# What can be wrong with a template

A template is text with replacement fields between braces. It can fail to be one
at all, a field can ask for something that is not there, and a field can ask for a
value to be laid out in a way that does not suit it. Each cause is a constructor
here, and the words for it are in `Template.Fault.message`.
-/

namespace SuiteLint

namespace Template

/-- The kinds of values that a field can stand for. -/
inductive Kind
  /-- A text. -/
  | text
  /-- An integer. -/
  | number
  deriving DecidableEq, Repr

/-- The name of a kind of values. -/
def Kind.name : Kind → Text
  | text => "str"
  | number => "int"

/-- Why a template cannot be filled in. -/
inductive Fault
  /-- An opening brace at the end. -/
  | loneOpen
  /-- A closing brace that closes nothing. -/
  | loneClose
  /-- The text ends inside a field. -/
  | unclosedField
  /-- An opening brace inside the name of a field. -/
  | openInName
  /-- The text ends inside the layout of a field. -/
  | unclosedLayout
  /-- The text ends where a conversion is expected. -/
  | missingConversion
  /-- Something other than a layout follows a conversion. -/
  | afterConversion
  /-- There is no such conversion. -/
  | unknownConversion (c : Char)
  /-- Fields inside fields inside fields. -/
  | tooDeep
  /-- A field that is numbered rather than named. -/
  | numbered (index : Nat)
  /-- There is no field of this name. -/
  | unknownField (name : Text)
  /-- A number with too many digits. -/
  | tooManyDigits
  /-- A part of a value is asked for without saying which. -/
  | emptyPart
  /-- Something other than a further part follows a bracket. -/
  | afterBracket
  /-- The value has no part of this name. -/
  | noPart (kind : Kind) (name : Text)
  /-- A kind of values has no part of this name. -/
  | noPartOfKind (kind : Kind) (name : Text)
  /-- The value has no numbered parts. -/
  | notIndexed (kind : Kind)
  /-- A kind of values has no numbered parts. -/
  | kindNotIndexed (kind : Kind)
  /-- The parts of a text are numbered, not named. -/
  | namedCharacter
  /-- The text has fewer characters. -/
  | noCharacter
  /-- A layout that cannot be read. -/
  | unreadableLayout (layout : Text) (kind : Kind)
  /-- A precision that does not say how many. -/
  | missingPrecision
  /-- Both separators. -/
  | twoSeparators
  /-- A separator that does not go with the style. -/
  | separatorWith (separator style : Char)
  /-- A style that the value cannot be laid out in. -/
  | unknownStyle (style : Char) (kind : Kind)
  /-- A sign for a text. -/
  | signForText
  /-- A space in place of a sign, for a text. -/
  | spaceForText
  /-- No minus sign for zero, for a text. -/
  | zeroSignForText
  /-- The alternate form of a text. -/
  | alternateText
  /-- Padding after the sign of a text. -/
  | padAfterSignOfText
  /-- A precision for an integer. -/
  | precisionForNumber
  /-- No minus sign for zero, for an integer. -/
  | zeroSignForNumber
  /-- A sign for a character. -/
  | signForCharacter
  /-- The alternate form of a character. -/
  | alternateCharacter
  /-- The number has more than 64 bits, so it is no code point. -/
  | noMachineWord
  /-- The number is no code point. -/
  | noCodePoint
  /-- The number is too large for binary floating point. -/
  | tooLarge
  /-- More digits than can be asked for. -/
  | precisionTooBig
  /-- A layout for a kind of values. -/
  | layoutForKind
  deriving DecidableEq, Repr

/-- A character as a fault shows it: itself if it is a visible basic character, and
its code otherwise. -/
def showStyle (c : Char) : Text :=
  if 32 < c.toNat ∧ c.toNat < 128 then [c] else "\\x" ++ Text.hex 0 c.toNat

/-- The cause in words. -/
def Fault.message : Fault → Text
  | loneOpen => "Single '\x7b' encountered in format string"
  | loneClose => "Single '\x7d' encountered in format string"
  | unclosedField => "expected '\x7d' before end of string"
  | openInName => "unexpected '\x7b' in field name"
  | unclosedLayout => "unmatched '\x7b' in format spec"
  | missingConversion => "end of string while looking for conversion specifier"
  | afterConversion => "expected ':' after conversion specifier"
  | unknownConversion c =>
    "Unknown conversion specifier " ++ if c.toNat = 127 then Text.hexEscape c else showStyle c
  | tooDeep => "Max string recursion exceeded"
  | numbered index =>
    "Replacement index " ++ Text.ofNat index ++ " out of range for positional args tuple"
  | unknownField name => Text.quote name
  | tooManyDigits => "Too many decimal digits in format string"
  | emptyPart => "Empty attribute in format string"
  | afterBracket => "Only '.' or '[' may follow ']' in format field specifier"
  | noPart kind name =>
    "'" ++ kind.name ++ "' object has no attribute '" ++ name ++ "'"
  | noPartOfKind kind name =>
    "type object '" ++ kind.name ++ "' has no attribute '" ++ name ++ "'"
  | notIndexed kind => "'" ++ kind.name ++ "' object is not subscriptable"
  | kindNotIndexed kind => "type '" ++ kind.name ++ "' is not subscriptable"
  | namedCharacter => "string indices must be integers, not 'str'"
  | noCharacter => "string index out of range"
  | unreadableLayout layout kind =>
    "Invalid format specifier '" ++ layout ++ "' for object of type '" ++ kind.name ++ "'"
  | missingPrecision => "Format specifier missing precision"
  | twoSeparators => "Cannot specify both ',' and '_'."
  | separatorWith separator style =>
    "Cannot specify '" ++ [separator] ++ "' with '" ++ showStyle style ++ "'."
  | unknownStyle style kind =>
    "Unknown format code '" ++ showStyle style ++ "' for object of type '" ++ kind.name ++ "'"
  | signForText => "Sign not allowed in string format specifier"
  | spaceForText => "Space not allowed in string format specifier"
  | zeroSignForText => "Negative zero coercion (z) not allowed in string format specifier"
  | alternateText => "Alternate form (#) not allowed in string format specifier"
  | padAfterSignOfText => "'=' alignment not allowed in string format specifier"
  | precisionForNumber => "Precision not allowed in integer format specifier"
  | zeroSignForNumber => "Negative zero coercion (z) not allowed in integer format specifier"
  | signForCharacter => "Sign not allowed with integer format specifier 'c'"
  | alternateCharacter => "Alternate form (#) not allowed with integer format specifier 'c'"
  | noMachineWord => "Python int too large to convert to C long"
  | noCodePoint => "%c arg not in range(0x110000)"
  | tooLarge => "int too large to convert to float"
  | precisionTooBig => "precision too big"
  | layoutForKind => "unsupported format string passed to type.__format__"

end Template

end SuiteLint
