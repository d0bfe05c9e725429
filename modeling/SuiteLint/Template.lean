import SuiteLint.Template.Number

/-!
# Templates

The line that the linter prints for a finding is made from a template. Text in a
template stands for itself; a *field*, between braces, stands for a value; two
braces of a kind stand for one. A field consists of the name of the value, perhaps
with parts of it picked out, perhaps a conversion after an exclamation mark, and
perhaps a layout after a colon. The layout may again have fields in it, but those
may not.

A template is read from left to right into *pieces*, one transition per character,
and filled in piece by piece. So the first thing that is wrong, whether in the
reading or in the filling in, is what is reported.
-/

namespace SuiteLint

namespace Template

/-! ### Pieces -/

/-- A replacement field as it is written. -/
structure Field where
  /-- Which value it stands for. -/
  target : Text
  /-- How the value is converted first. -/
  conversion : Option Char
  /-- How the value is laid out. -/
  layout : Text
  /-- Whether there are fields in the layout. -/
  nested : Bool
  deriving DecidableEq, Repr

/-- A piece of a template. -/
inductive Piece
  /-- A character that stands for itself. -/
  | plain (c : Char)
  /-- A field. -/
  | field (f : Field)
  /-- From here on it is no template. -/
  | flaw (f : Fault)
  deriving DecidableEq, Repr

/-- Where in a template the reading is. -/
inductive Mode
  /-- Outside fields. -/
  | outside
  /-- In the name of a field, and perhaps between brackets. -/
  | inName (bracket : Bool) (target : Text)
  /-- After the exclamation mark. -/
  | beforeConversion (target : Text)
  /-- After the conversion. -/
  | afterConversion (target : Text) (conversion : Char)
  /-- In the layout, which has `depth` braces open. -/
  | inLayout (target : Text) (conversion : Option Char) (layout : Text) (depth : Nat)
      (nested : Bool)
  deriving DecidableEq, Repr

/-- The pieces of a template from a given mode on. -/
def piecesFrom : Mode → Text → List Piece
  | .outside, [] => []
  | .outside, ['{'] => [.flaw .loneOpen]
  | .outside, '{' :: '{' :: rest => .plain '{' :: piecesFrom .outside rest
  | .outside, '{' :: rest => piecesFrom (.inName false []) rest
  | .outside, '}' :: '}' :: rest => .plain '}' :: piecesFrom .outside rest
  | .outside, '}' :: _ => [.flaw .loneClose]
  | .outside, c :: rest => .plain c :: piecesFrom .outside rest
  | .inName _ _, [] => [.flaw .unclosedField]
  | .inName true target, c :: rest => piecesFrom (.inName (c ≠ ']') (target ++ [c])) rest
  | .inName false _, '{' :: _ => [.flaw .openInName]
  | .inName false target, '}' :: rest =>
    .field ⟨target, none, [], false⟩ :: piecesFrom .outside rest
  | .inName false target, ':' :: rest => piecesFrom (.inLayout target none [] 1 false) rest
  | .inName false target, '!' :: rest => piecesFrom (.beforeConversion target) rest
  | .inName false target, c :: rest => piecesFrom (.inName (c = '[') (target ++ [c])) rest
  | .beforeConversion _, [] => [.flaw .missingConversion]
  | .beforeConversion target, c :: rest => piecesFrom (.afterConversion target c) rest
  | .afterConversion _ _, [] => [.flaw .unclosedLayout]
  | .afterConversion target conversion, '}' :: rest =>
    .field ⟨target, some conversion, [], false⟩ :: piecesFrom .outside rest
  | .afterConversion target conversion, ':' :: rest =>
    piecesFrom (.inLayout target (some conversion) [] 1 false) rest
  | .afterConversion _ _, _ :: _ => [.flaw .afterConversion]
  | .inLayout _ _ _ _ _, [] => [.flaw .unclosedLayout]
  | .inLayout target conversion layout depth nested, '}' :: rest =>
    if depth ≤ 1 then
      .field ⟨target, conversion, layout, nested⟩ :: piecesFrom .outside rest
    else piecesFrom (.inLayout target conversion (layout ++ ['}']) (depth - 1) nested) rest
  | .inLayout target conversion layout depth _, '{' :: rest =>
    piecesFrom (.inLayout target conversion (layout ++ ['{']) (depth + 1) true) rest
  | .inLayout target conversion layout depth nested, c :: rest =>
    piecesFrom (.inLayout target conversion (layout ++ [c]) depth nested) rest

/-- The pieces of a template. -/
def pieces (template : Text) : List Piece := piecesFrom .outside template

/-! ### Values -/

/-- What a field can stand for. -/
inductive Value
  /-- A text. -/
  | text (t : Text)
  /-- An integer. -/
  | number (n : Int)
  /-- A kind of values. -/
  | kind (k : Kind)
  deriving DecidableEq, Repr

/-- The part of a value that has the given name. -/
def Value.part (name : Text) : Value → Except Fault Value
  | text _ => if name = "__class__" then .ok (kind .text) else .error (.noPart .text name)
  | number n =>
    if name = "real" ∨ name = "numerator" then .ok (number n)
    else if name = "imag" then .ok (number 0)
    else if name = "denominator" then .ok (number 1)
    else if name = "__class__" then .ok (kind .number)
    else .error (.noPart .number name)
  | kind k => if name = "__name__" then .ok (text k.name) else .error (.noPartOfKind k name)

/-- The part of a value between brackets: a character of a text by its position. -/
def Value.item (key : Text) (value : Value) : Except Fault Value := do
  let index ← wholeNumber key
  match value, index with
  | text t, some i =>
    match t[i]? with
    | some c => return text [c]
    | none => throw .noCharacter
  | text _, none => throw .namedCharacter
  | number _, _ => throw (.notIndexed .number)
  | kind k, _ => throw (.kindNotIndexed k)

/-- How the rest of a target is read: as the name of a part, or as a key between
brackets. -/
inductive Pick
  /-- A name after a dot, of which this much has been read. -/
  | name (soFar : Text)
  /-- A key between brackets, of which this much has been read. -/
  | key (soFar : Text)
  /-- Neither: a dot or a bracket has to follow. -/
  | next
  deriving DecidableEq, Repr

/-- Picks the parts that the rest of a target asks for out of a value. -/
def Value.pick (value : Value) : Pick → Text → Except Fault Value
  | .next, [] => .ok value
  | .next, '.' :: rest => value.pick (.name []) rest
  | .next, '[' :: rest => value.pick (.key []) rest
  | .next, _ :: _ => .error .afterBracket
  | .name [], [] => .error .emptyPart
  | .name [], '.' :: _ => .error .emptyPart
  | .name [], '[' :: _ => .error .emptyPart
  | .name soFar, [] => value.part soFar
  | .name soFar, '.' :: rest => do (← value.part soFar).pick (.name []) rest
  | .name soFar, '[' :: rest => do (← value.part soFar).pick (.key []) rest
  | .name soFar, c :: rest => value.pick (.name (soFar ++ [c])) rest
  | .key _, [] => .error .emptyPart
  | .key [], ']' :: _ => .error .emptyPart
  | .key soFar, ']' :: rest => do (← value.item soFar).pick .next rest
  | .key soFar, c :: rest => value.pick (.key (soFar ++ [c])) rest

/-- The value that a target asks for, among named values. -/
def resolve (values : Text → Option Value) (target : Text) : Except Fault Value := do
  let isEnd (c : Char) : Bool := c = '.' || c = '['
  let name := target.takeWhile (!isEnd ·)
  if name.isEmpty then throw (.numbered 0)
  match ← wholeNumber name with
  | some index => throw (.numbered index)
  | none =>
    match values name with
    | none => throw (.unknownField name)
    | some value => value.pick .next (target.dropWhile (!isEnd ·))

/-- The value as it stands. -/
def Value.plain : Value → Text
  | text t => t
  | number n => Text.ofInt n
  | kind k => "<class '" ++ k.name ++ "'>"

/-- The value as it is quoted, with the given quoting of texts. -/
def Value.quoted (quote : Text → Text) : Value → Text
  | text t => quote t
  | value => value.plain

/-- The value after a conversion. -/
def Value.convert (value : Value) (conversion : Char) : Except Fault Value :=
  if conversion = 's' then .ok (text value.plain)
  else if conversion = 'r' then .ok (text (value.quoted Text.quote))
  else if conversion = 'a' then .ok (text (value.quoted Text.quoteBasic))
  else if conversion.toNat = 0 then .ok value
  else .error (.unknownConversion conversion)

/-- The value in a layout. -/
def Value.layOut (value : Value) (layout : Text) : Except Fault Text := do
  if layout.isEmpty then return value.plain
  match value with
  | text t => (← Layout.read .text layout).text t
  | number n => (← Layout.read .number layout).integer n
  | kind _ => throw .layoutForKind

/-! ### Filling in -/

/-- What a field stands for. `fill` fills in the fields of its layout. -/
def Field.fill (fill : Text → Except Fault Text) (values : Text → Option Value) (field : Field) :
    Except Fault Text := do
  let value ← resolve values field.target
  let value ←
    match field.conversion with
    | none => pure value
    | some conversion => value.convert conversion
  value.layOut (← if field.nested then fill field.layout else pure field.layout)

/-- What a piece stands for. -/
def Piece.fill (fill : Text → Except Fault Text) (values : Text → Option Value) :
    Piece → Except Fault Text
  | plain c => .ok [c]
  | field f => f.fill fill values
  | flaw f => .error f

/-- Fills in the fields of a template in which fields may be nested to the given
depth. -/
def fillTo (values : Text → Option Value) : (depth : Nat) → Text → Except Fault Text
  | 0, _ => .error .tooDeep
  | depth + 1, template => do
    return (← (pieces template).mapM (Piece.fill (fillTo values depth) values)).flatten

/-- Fills in the fields of a template. -/
def fill (values : Text → Option Value) (template : Text) : Except Fault Text :=
  fillTo values 2 template

end Template

end SuiteLint
