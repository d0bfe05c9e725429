import SuiteLint.Table

/-!
# Documents

A document is a file as the linter sees it: its name, its path, its text, and the
tables the text divides into. A line that is a heading begins a table, and every
other line is a row of the table it is in; the rows before the first heading are
in a table of their own, which is not listed.

A file is read twice, once as a whole for its text, and once line by line for its
tables. If it cannot be read, the document has no text and no tables.

A document with a table of test cases is a *suite*, any other is a *resource*.
-/

namespace SuiteLint

/-- A file as the linter sees it. -/
structure Document where
  /-- The last component of its path, without the extension. -/
  name : Text
  /-- Its absolute path. -/
  path : Text
  /-- Its text, if it could be read. -/
  source : Option Text
  /-- Its tables. -/
  tables : List Table
  deriving DecidableEq, Repr

namespace Document

/-! ### From lines to tables -/

/-- The name of the table that a row begins, if it is a heading. -/
def headingName? (row : Row) : Option Text :=
  match row.cells with
  | [] => none
  | cell :: _ =>
    match Pattern.heading.match? true cell with
    | some found => some ((found.parts.head?.join).getD [])
    | none => none

/-- The table that a heading begins. -/
def startTable (row : Row) (name : Text) : Table :=
  { kind := .ofName (some name), line := row.line, name := some name, header := some row.raw }

/-- The tables of rows that follow the rows of a table, that table first. -/
def tablesFrom (current : Table) : List Row → List Table
  | [] => [current]
  | row :: rows =>
    match headingName? row with
    | some name => current :: tablesFrom (startTable row name) rows
    | none => tablesFrom (current.append row) rows

/-- The tables of the rows of a file. What comes before the first heading is not
listed. -/
def tablesOf (rows : List Row) : List Table := (tablesFrom { kind := .leading } rows).tail

/-- The rows of the lines of a file, numbered from a given line on. -/
def rowsFrom (line : Int) : List Text → List Row
  | [] => []
  | text :: texts => Row.ofLine line text :: rowsFrom (line + 1) texts

/-! ### Reading a file -/

/-- The document that bytes encode. -/
def ofBytes (name path : Text) (bytes : Bytes) : Except Utf8.Malformed Document := do
  let source ← Utf8.decode bytes
  let lines ← Utf8.decodeLines bytes
  return { name, path, source := some source, tables := tablesOf (rowsFrom 1 lines) }

/-- Reads a document, or says why it cannot be read. -/
def read (tree : FileTree) (path : Text) : Except ReadFailure Document :=
  match tree.content path with
  | .error obstacle => .error (.obstacle obstacle)
  | .ok content =>
    (ofBytes (Path.stem path) (tree.absolute path) content.bytes).mapError .malformed

/-- The document of a file that cannot be read. -/
def empty (tree : FileTree) (path : Text) : Document :=
  { name := Path.stem path, path := tree.absolute path, source := none, tables := [] }

/-- The complaint about a file that cannot be read. -/
def complaint (path : Text) (failure : ReadFailure) : Text :=
  Text.line ("there was a problem reading '" ++ path ++ "': " ++ failure.message path)

/-- Loads a document, with what is to be said if it cannot be read. -/
def load (tree : FileTree) (path : Text) : Document × Text :=
  match read tree path with
  | .ok document => (document, [])
  | .error failure => (empty tree path, complaint path failure)

/-! ### Looking at a document -/

/-- Whether a document has a table of test cases. -/
def isSuite (document : Document) : Bool := document.tables.any (Table.holds .test)

/-- The word for a document: it is a suite or a resource file. -/
def label (document : Document) : Text :=
  if document.isSuite then "SuiteFile" else "ResourceFile"

/-- The kind of a document: none if it has no table of a known kind. -/
def kind? (document : Document) : Option Text :=
  if document.tables.all (·.kind = .unknown) then none
  else if document.isSuite then some "suite"
  else some "resource"

/-- The blocks of a document of a given kind. -/
def blocks (document : Document) (kind : BlockKind) : List Block :=
  (document.tables.filter (Table.holds kind)).flatMap Table.blocks

/-- The test cases of a document. -/
def testCases (document : Document) : List Block := document.blocks .test

/-- The keywords of a document. -/
def keywords (document : Document) : List Block := document.blocks .keyword

/-- The rows of global variables of a document, without those that hold nothing or a
comment. -/
def globals (document : Document) : List Row :=
  ((document.tables.filter (·.kind = .globals)).flatMap Table.rows).filter Row.isLabelled

/-- The tables of a document, one line for each name and each row. -/
def dump (document : Document) : Text :=
  document.tables.flatMap fun table =>
    Text.line ("*** " ++ table.title ++ " ***") ++ table.dump

/-- The label and the path of a document. -/
def summary (document : Document) : Text :=
  "<" ++ document.label ++ "(" ++ document.path ++ ")>"

end Document

end SuiteLint
