import SuiteLint.Block
import SuiteLint.Pattern

/-!
# Tables

A file is a sequence of tables. The name in its heading decides of which kind a
table is. A table of test cases or keywords groups its rows into blocks, and any
other table just keeps its rows.

In a table of blocks, a row whose first cell is neither empty nor a comment opens a
block. If it has further cells they are the first row of the block, with an empty
cell in place of the name. Any other row belongs to the last block, or, before the
first block, to the comments of the table.
-/

namespace SuiteLint

/-- The kinds of tables. -/
inductive TableKind
  /-- What comes before the first heading. -/
  | leading
  /-- A table with a name that is not known. -/
  | unknown
  /-- Settings. -/
  | settings
  /-- Variables. -/
  | globals
  /-- Metadata. -/
  | metadata
  /-- A table of no particular kind. -/
  | plain
  /-- Test cases or keywords. -/
  | blocks (kind : BlockKind)
  deriving DecidableEq, Repr

namespace TableKind

/-- The name of a kind of tables. -/
def name : TableKind → Text
  | leading => "DefaultTable"
  | unknown => "UnknownTable"
  | settings => "SettingTable"
  | globals => "VariableTable"
  | metadata => "MetadataTable"
  | plain => "RobotTable"
  | blocks kind => kind.name ++ "Table"

/-- All kinds of tables. -/
def all : List TableKind :=
  [leading, unknown, settings, globals, metadata, plain, blocks .test, blocks .keyword]

/-- The kind with the given name. There is also a name for tables of blocks that
does not say of which blocks; no table is of that kind. -/
def named (title : Text) : Except Fault TableKind :=
  match all.find? (·.name = title) with
  | some kind => .ok kind
  | none => .error .undeterminedTable

/-- The kind that a table with the given name, if any, is of. -/
def ofName : Option Text → TableKind
  | none => unknown
  | some name =>
    if Pattern.settings.begins name then settings
    else if Pattern.globals.begins name then globals
    else if Pattern.testCases.begins name then blocks .test
    else if Pattern.keywords.begins name then blocks .keyword
    else unknown

end TableKind

/-- A table. -/
structure Table where
  /-- Of which kind it is. -/
  kind : TableKind
  /-- The line of its heading. -/
  line : Int := 0
  /-- Its name. -/
  name : Option Text := none
  /-- Its heading, as a whole. -/
  header : Option Text := none
  /-- Its rows, unless it is a table of blocks. -/
  rows : List Row := []
  /-- What comes before the first block. -/
  comments : List Row := []
  /-- Its blocks. -/
  blocks : List Block := []
  deriving DecidableEq, Repr

namespace Table

/-- Applies a function to the last block. -/
def onLast (f : Block → Block) : List Block → List Block
  | [] => []
  | [block] => [f block]
  | block :: others => block :: onLast f others

/-- The block that a row opens, where the row opens one. -/
def openBlock (kind : BlockKind) (row : Row) : Block :=
  match row.cells with
  | [] => ⟨kind, row.line, [], []⟩
  | [name] => ⟨kind, row.line, name, []⟩
  | name :: cells => ⟨kind, row.line, name, [{ row with cells := [] :: cells }]⟩

/-- The table with one more row. A row without cells adds nothing to a table of
blocks. -/
def append (table : Table) (row : Row) : Table :=
  match table.kind with
  | .blocks kind =>
    if row.cells.isEmpty then table
    else if row.isLabelled then { table with blocks := table.blocks ++ [openBlock kind row] }
    else if table.blocks.isEmpty then { table with comments := table.comments ++ [row] }
    else { table with blocks := onLast (·.append row) table.blocks }
  | _ => { table with rows := table.rows ++ [row] }

/-- Whether a table is one of settings. -/
def isSetting (table : Table) : Bool := table.kind = .settings

/-- Whether a table is one of blocks of the given kind. -/
def holds (kind : BlockKind) (table : Table) : Bool := table.kind = .blocks kind

/-- The statements of a table of settings. -/
def statements (table : Table) : Except Fault (List Statement) := Statement.ofSettings table.rows

/-! ### Showing a table -/

/-- The name of a table, or a word for that it has none. -/
def title (table : Table) : Text := table.name.getD "None"

/-- The kind, line and name of a table. -/
def summary (table : Table) : Text :=
  "<" ++ table.kind.name ++ "(linenumbmer=" ++ Text.ofInt table.line ++ ", name=\"" ++
    table.title ++ "\")>"

/-- The rows of a table, one line each. A table of blocks shows its blocks: the name
and then the rows. -/
def dump (table : Table) : Text :=
  match table.kind with
  | .blocks _ =>
    table.blocks.flatMap fun block =>
      Text.line ("| " ++ block.name) ++ block.rows.flatMap fun row => Text.line row.strippedPiped
  | _ => table.rows.flatMap fun row => Text.line row.piped

end Table

/-! ### Settings across tables -/

/-- Whether some row of settings has the given label. Rows are looked at in order,
and one without cells is a fault if it is met first. -/
def hasSetting (label : Text) (tables : List Table) : Except Fault Bool :=
  search ((tables.filter Table.isSetting).flatMap Table.rows)
where
  /-- Looks for the label in rows. -/
  search : List Row → Except Fault Bool
    | [] => .ok false
    | row :: rows =>
      match row.label with
      | .error fault => .error fault
      | .ok found => if found = label then .ok true else search rows

/-- Whether the tests are made from a template, so that the rows of a test case
are data. -/
def isTemplated (tables : List Table) : Except Fault Bool := hasSetting "test template" tables

end SuiteLint
