import SuiteLint.Remark

/-!
# Checks on suites and resources

These checks look at a document as a whole: at its name, at the names of its
tables, at the names of its blocks, at its settings, and at how many test cases it
has.
-/

namespace SuiteLint

/-! ### Repeated names -/

/-- A name as it is compared with others: without spaces and underscores, and in
small letters. -/
def normalizeName (name : Text) : Text :=
  Text.lower (Text.without '_' (Text.without ' ' name))

/-- The elements whose key has come before, where the keys in `seen` have come
already. -/
def repeatedAfter {α : Type} (key : α → Text) (seen : List Text) : List α → List α
  | [] => []
  | a :: as =>
    if seen.contains (key a) then a :: repeatedAfter key (key a :: seen) as
    else repeatedAfter key (key a :: seen) as

/-- The blocks that have the same name as one before them. -/
def repeatedBlocks (blocks : List Block) : List Block :=
  repeatedAfter (fun block => normalizeName block.name) [] blocks

/-! ### The checks -/

/-- Whether the name of a table is one that a table can have. -/
def Table.hasKnownName (table : Table) : Bool := Pattern.tableName.begins table.title

/-- The line to put documentation on: after the heading of the first table of
settings, or the first line if there is none. -/
def Document.documentationLine (document : Document) : Int :=
  match document.tables.find? Table.isSetting with
  | some table => table.line + 1
  | none => 1

namespace SuiteCheck

/-- What a check has to say about a document. -/
def apply (document : Document) : SuiteCheck → Verdict
  | periodInName =>
    .ok (if document.name.contains '.' then
      [{ line := 0, message := "'.' in suite name '" ++ document.name ++ "'" }] else [])
  | invalidTable =>
    .ok ((document.tables.filter (!·.hasKnownName)).map fun table =>
      { line := table.line, message := "Unknown table name '" ++ table.title ++ "'" })
  | duplicateKeywords =>
    .ok ((repeatedBlocks document.keywords).map fun block =>
      { line := block.line, message := "Duplicate keyword name '" ++ block.name ++ "'" })
  | duplicateTests =>
    .ok ((repeatedBlocks document.testCases).map fun block =>
      { line := block.line, message := "Duplicate testcase name '" ++ block.name ++ "'" })
  | documentation => do
    if ← hasSetting "documentation" document.tables then return []
    return [{ line := document.documentationLine, message := "No suite documentation" }]
  | testCount limit => do
    if ← isTemplated document.tables then return []
    let tests := document.testCases
    if tests.length ≤ limit then return []
    let surplus ← Position.get tests limit
    return [{
      line := surplus.line
      message := "Too many test cases (" ++ Text.ofNat tests.length ++ " > " ++
        Text.ofInt limit ++ ") in test suite" }]
  | silent => .ok []
  | echoPair none => .error (.unconfigured (echoPair none).name "first")
  | echoPair (some (first, second)) => .ok [{ line := 0, message := first ++ "/" ++ second }]

end SuiteCheck

namespace ResourceCheck

@[inherit_doc SuiteCheck.apply]
def apply (document : Document) : ResourceCheck → Verdict
  | echoValue none => .error (.unconfigured (echoValue none).name "value")
  | echoValue (some value) => .ok [{ line := 0, message := "the configured value is " ++ value }]
  | echoName => .ok [{ line := 7, message := "resource " ++ document.name, char := 3 }]

end ResourceCheck

end SuiteLint
