import SuiteLint.Statement

/-!
# Blocks

A test case or keyword is a block: a name, the line the name stands on, and the
rows that follow it. Its statements are put together from its rows when they are
asked for. A statement is a setting, a comment or a step. A step that consists of
a single empty cell comes from a blank line and is not counted.
-/

namespace SuiteLint

/-- The two kinds of blocks. -/
inductive BlockKind
  /-- A test case. -/
  | test
  /-- A keyword. -/
  | keyword
  deriving DecidableEq, Repr

/-- The name of a kind of blocks. -/
def BlockKind.name : BlockKind → Text
  | test => "Testcase"
  | keyword => "Keyword"

/-- A test case or keyword. -/
structure Block where
  /-- Which of the two it is. -/
  kind : BlockKind
  /-- The line its name stands on. -/
  line : Int
  /-- Its name. -/
  name : Text
  /-- Its rows. -/
  rows : List Row
  deriving DecidableEq, Repr

namespace Block

/-- The statements of a block. -/
def statements (block : Block) : List Statement := Statement.ofBlock block.rows

/-- The steps of a block. -/
def steps (block : Block) : List Statement := block.statements.filter Statement.isStep

/-- The settings of a block. -/
def settings (block : Block) : List Statement := block.statements.filter Statement.isSetting

/-- The steps of a block that do not come from blank lines. -/
def countedSteps (block : Block) : List Statement := block.steps.filter (!·.isBlank)

/-- The tags of a test case, from all its statements that set some. -/
def tags (block : Block) : List Text :=
  block.statements.flatMap fun s => if s.sets "[tags]" then s.cells.drop 2 else []

/-- Whether a block has documentation. -/
def isDocumented (block : Block) : Bool := block.settings.any (·.sets "[documentation]")

/-- The block with one more row. -/
def append (block : Block) (row : Row) : Block := { block with rows := block.rows ++ [row] }

/-- The kind and the name of a block. -/
def summary (block : Block) : Text := "<" ++ block.kind.name ++ ": " ++ block.name ++ ">"

end Block

end SuiteLint
