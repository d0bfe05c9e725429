import SuiteLint.Row

/-!
# Statements

A statement may go on over several rows. A row continues the statement before it
if it begins with three dots, in a table of settings, or with an empty cell and
three dots, inside a test case or keyword; what follows the dots belongs to the
statement. The first row of a table or block continues nothing.

Both kinds of statements are put together by `Statement.assemble`, which is told
how a row is recognised as a continuation.
-/

namespace SuiteLint

/-- The cells of one or more rows that belong together. -/
structure Statement where
  /-- The cells. -/
  cells : List Text
  /-- The line of the first row. -/
  first : Int
  /-- The line of the last row. -/
  last : Int
  deriving DecidableEq, Repr

namespace Statement

/-! ### Putting statements together -/

/-- The statement that a row begins. -/
def ofRow (row : Row) : Statement := ⟨row.cells, row.line, row.line⟩

/-- The statement with the cells of a continuation on the given line. -/
def extend (s : Statement) (more : List Text) (line : Int) : Statement :=
  { s with cells := s.cells ++ more, last := line }

/-- The statement as a list, which is empty if the statement has no cells. -/
def unlessEmpty (s : Statement) : List Statement := if s.cells.isEmpty then [] else [s]

/-- The statements of the rows that follow the rows of a statement. -/
def assembleFrom (continuation? : Row → Option (List Text)) (current : Statement) :
    List Row → List Statement
  | [] => current.unlessEmpty
  | row :: rows =>
    match continuation? row with
    | some more => assembleFrom continuation? (current.extend more row.line) rows
    | none => current.unlessEmpty ++ assembleFrom continuation? (ofRow row) rows

/-- The statements of rows. `continuation?` gives the cells that a row adds to the
statement before it, if it continues one. -/
def assemble (continuation? : Row → Option (List Text)) : List Row → List Statement
  | [] => []
  | row :: rows => assembleFrom continuation? (ofRow row) rows

/-- The cells that a row of a block adds to the statement before it. -/
def blockContinuation? (row : Row) : Option (List Text) :=
  match row.cells with
  | a :: b :: more => if a = [] ∧ b = "..." then some more else none
  | _ => none

/-- The cells that a row of settings adds to the statement before it. -/
def settingContinuation? (row : Row) : Option (List Text) :=
  match row.cells with
  | a :: more => if a = "..." then some more else none
  | [] => none

/-- The statements of the rows of a block. -/
def ofBlock (rows : List Row) : List Statement := assemble blockContinuation? rows

/-- Whether a statement is a single empty cell, as a blank line gives it. -/
def isBlank (s : Statement) : Bool := s.cells == [[]]

/-- The statements without those at the end that are blank. -/
def dropBlankEnd (statements : List Statement) : List Statement :=
  (statements.reverse.dropWhile isBlank).reverse

/-- The statements of the rows of a table of settings, without the blank ones at
the end. It is a fault if there are rows but nothing remains. -/
def ofSettings (rows : List Row) : Except Fault (List Statement) :=
  if rows.isEmpty then .ok []
  else
    match dropBlankEnd (assemble settingContinuation? rows) with
    | [] => .error .noItem
    | statements => .ok statements

/-! ### Kinds of statements -/

/-- Whether a text has a closing bracket before any newline. -/
def closesBracket : Text → Bool
  | [] => false
  | c :: rest => if c = ']' then true else if c = '\n' then false else closesBracket rest

/-- Whether a cell begins with something in brackets. -/
def isBracketed : Text → Bool
  | '[' :: rest => closesBracket rest
  | _ => false

/-- Whether a statement is a setting: its second cell begins with something in
brackets. -/
def isSetting (s : Statement) : Bool :=
  match s.cells with
  | _ :: cell :: _ => isBracketed cell
  | _ => false

/-- Whether some cell of a statement is a comment. -/
def isComment (s : Statement) : Bool := s.cells.any Text.isRemark

/-- Whether a statement is a step: neither a setting nor a comment. -/
def isStep (s : Statement) : Bool := !s.isComment && !s.isSetting

/-- Whether the second cell of a statement is the given one, in small letters. -/
def hasName (s : Statement) (name : Text) : Bool :=
  match s.cells with
  | _ :: cell :: _ => Text.lower cell == name
  | _ => false

/-- Whether a statement is the setting of the given name, and sets something. -/
def sets (s : Statement) (name : Text) : Bool := s.hasName name && s.cells.length > 2

/-! ### Showing a statement -/

/-- The first four characters of a line number, if there is one. -/
def showLine : Option Int → Text
  | none => "None"
  | some n => (Text.ofInt n).take 4

/-- Cells with the lines they come from. -/
def summary (first last : Option Int) (cells : List Text) : Text :=
  "(" ++ showLine first ++ "-" ++ showLine last ++ ")" ++ Text.quoteList cells

end Statement

end SuiteLint
