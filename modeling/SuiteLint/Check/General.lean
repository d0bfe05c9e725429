import SuiteLint.Remark

/-!
# Checks on any file

Three of these checks look at the text of a file: at the length of its lines, at
the blank lines at its end, and at the number of its lines. They cannot be applied
to a file whose text could not be read. A line is what stands between newlines, so
that a text always has one line more than newlines.

Another one looks for the names of global variables: those in tables of variables,
and those that a test case or keyword sets. The latter stand in the cell after one
that says that a variable is set.
-/

namespace SuiteLint

/-- The lines of a text, as it is cut by newlines. -/
def sourceLines (source : Text) : List Text := Text.pieces '\n' source

/-! ### Global variables -/

/-- The message about a global variable that is not in capital letters. -/
def badVariable (name : Text) : Text :=
  "Violation of lower case character(s) in global variable " ++ name

/-- Whether a cell says that the next one names a global variable. -/
def setsVariable (cell : Text) : Bool :=
  let name := Text.lower cell
  name == "set global variable" || name == "set suite variable" || name == "set test variable"

/-- The cells of a block, each with the line it stands on. -/
def Block.cells (block : Block) : List (Text × Int) :=
  block.rows.flatMap fun row => row.cells.map fun cell => (cell, row.line)

/-- Whether a cell is passed over in the search for a variable name. -/
def isPassedOver (cell : Text) : Bool := cell = "..." || cell = []

/-- Remarks on the names of variables among cells. `expected` says that the next
cell that is not passed over names one. -/
def variableNames (expected : Bool) : List (Text × Int) → List Remark
  | [] => []
  | (cell, line) :: cells =>
    if isPassedOver cell then variableNames expected cells
    else if setsVariable cell then variableNames true cells
    else if expected && !Text.isAllCapitals cell then
      { line, message := badVariable cell } :: variableNames false cells
    else variableNames false cells

/-- Remarks on the names of variables that a block sets. -/
def Block.variableRemarks (block : Block) : List Remark := variableNames false block.cells

/-- Remarks on the names of variables in a row of a table of variables. A row that
continues the one before it names none. -/
def Row.variableRemarks (row : Row) : List Remark :=
  match row.cells with
  | [] => []
  | name :: _ =>
    if Text.isAllCapitals name || Text.startsWith (Text.strip name) "..." then []
    else [{ line := row.line, message := badVariable name }]

/-- Remarks on the names of all global variables of a document. -/
def Document.variableRemarks (document : Document) : List Remark :=
  document.globals.flatMap Row.variableRemarks ++
    document.testCases.flatMap Block.variableRemarks ++
    document.keywords.flatMap Block.variableRemarks

/-! ### The text of a file -/

/-- Remarks on lines that are too long, where the first line has the given number. -/
def longLines (limit : Int) (line : Int) : List Text → List Remark
  | [] => []
  | text :: texts =>
    if (text.length : Int) > limit then
      { line, char := limit,
        message := "Line is too long (exceeds " ++ Text.ofInt limit ++ " characters)" } ::
        longLines limit (line + 1) texts
    else longLines limit (line + 1) texts

/-- A remark on blank lines at the end of a text, if there are more than allowed. -/
def blankEndRemarks (limit : Int) (source : Text) : List Remark :=
  let count := (Text.blankEnd source).count '\n'
  if (count : Int) > limit then
    [{ line := (sourceLines source).length - count + limit
       message := "Too many trailing blank lines" }]
  else []

/-- A remark on the number of lines of a text, if there are more than allowed. -/
def lengthRemarks (limit : Int) (source : Text) : List Remark :=
  let count := (sourceLines source).length
  if (count : Int) > limit then
    [{ line := limit + 1, message := "File has too many lines (" ++ Text.ofNat count ++ ")" }]
  else []

/-- The kind of a document, or a word for that it has none. -/
def Document.kindName (document : Document) : Text := document.kind?.getD "None"

/-- What is found in the text of a document, if it could be read. -/
def Document.inSource (document : Document) (find : Text → List Remark) : Verdict :=
  match document.source with
  | none => .error .unread
  | some source => .ok (find source)

namespace GeneralCheck

/-- What a check has to say about a document. -/
def apply (document : Document) : GeneralCheck → Verdict
  | lineLength limit => document.inSource fun source => longLines limit 1 (sourceLines source)
  | blankEnd limit => document.inSource (blankEndRemarks limit)
  | fileLength limit => document.inSource (lengthRemarks limit)
  | variableCase => .ok document.variableRemarks
  | silent => .ok []
  | echoKind => .ok [{ line := 1, message := "the type is " ++ document.kindName }]
  | echoKindBriefly => .ok [{ line := 1, message := "type " ++ document.kindName }]

end GeneralCheck

end SuiteLint
