import SuiteLint.Path
import SuiteLint.RulePack
import SuiteLint.Text.Utf8

/-!
# Trees of files

The linter sees a fixed tree of files and folders, from the root down, and the
folder it works in. The entries of a folder have distinct names and are kept in
the order of their names, which is the order in which everything that lists a
folder lists them.

A path leads through the tree component by component. An empty component or a
single dot stays, two dots lead up (and stay at the root), any other component
leads to the entry of that name. A file has no components below it, not even an
empty one, so a path to a file that ends with a slash leads nowhere.
-/

namespace SuiteLint

/-- What a file holds: its bytes, and the rule pack it is, if it is one. -/
structure Content where
  /-- The bytes of the file. -/
  bytes : Bytes
  /-- What loading the file as a rule pack does. -/
  pack : Option RulePack := none

/-- A file or a folder. -/
inductive Entry
  /-- A file and what it holds. -/
  | file (name : Text) (content : Content)
  /-- A folder and its entries. -/
  | folder (name : Text) (entries : List Entry)

namespace Entry

/-- The name of an entry in its folder. -/
def name : Entry → Text
  | file n _ => n
  | folder n _ => n

/-- The entries of a folder; a file has none. -/
def entries : Entry → List Entry
  | file _ _ => []
  | folder _ es => es

/-- Whether an entry is a folder. -/
def isFolder : Entry → Bool
  | file _ _ => false
  | folder _ _ => true

/-- The entry of a given name. -/
def find? (name : Text) (es : List Entry) : Option Entry := es.find? (·.name = name)

/-- Puts an entry among others, in the place of its name; it replaces an entry of
the same name. -/
def put (e : Entry) : List Entry → List Entry
  | [] => [e]
  | d :: ds =>
    if e.name = d.name then e :: ds
    else if Text.le e.name d.name then e :: d :: ds
    else d :: put e ds

/-- Makes an entry at the end of a chain of folders, making those that are
missing. A file in the way becomes a folder. -/
def insert (make : Text → Entry) : List Text → List Entry → List Entry
  | [], es => es
  | [last], es => put (make last) es
  | part :: parts, es =>
    put (folder part (insert make parts (((find? part es).map entries).getD []))) es

/-- Takes an entry at the end of a chain of folders away. -/
def erase : List Text → List Entry → List Entry
  | [], es => es
  | [last], es => es.filter (·.name ≠ last)
  | part :: parts, es =>
    match find? part es with
    | some (folder n ds) => put (folder n (erase parts ds)) es
    | _ => es

end Entry

/-- Why a file cannot be opened. -/
inductive Obstacle
  /-- Nothing is there. -/
  | missing
  /-- The path leads through a file. -/
  | notFolder
  /-- It is a folder. -/
  | isFolder
  /-- The path has a character that no path can have. -/
  | nullCharacter
  deriving DecidableEq, Repr

/-- The obstacle in words. -/
def Obstacle.message (path : Text) : Obstacle → Text
  | .missing => "[Errno 2] No such file or directory: " ++ Text.quote path
  | .notFolder => "[Errno 20] Not a directory: " ++ Text.quote path
  | .isFolder => "[Errno 21] Is a directory: " ++ Text.quote path
  | .nullCharacter => "embedded null byte"

/-- A tree of files and the folder the linter works in. -/
structure FileTree where
  /-- The entries of the root. -/
  entries : List Entry
  /-- The components of the path of the working folder. -/
  workingFolder : List Text

namespace FileTree

/-- The absolute path of the working folder. -/
def workingPath (tree : FileTree) : Text :=
  "/" ++ Text.joinWith "/" tree.workingFolder

/-- The absolute path of something, seen from the working folder. -/
def absolute (tree : FileTree) (path : Text) : Text := Path.absolute tree.workingPath path

/-- Follows the components of a path from an entry, whose enclosing folders are
given with the innermost first. -/
def follow (here : Entry) (above : List Entry) :
    List Text → Except Obstacle (Entry × List Entry)
  | [] => .ok (here, above)
  | part :: parts =>
    match here with
    | .file _ _ => .error .notFolder
    | .folder _ es =>
      if part = [] ∨ part = "." then follow here above parts
      else if part = ".." then
        match above with
        | [] => follow here [] parts
        | up :: others => follow up others parts
      else
        match Entry.find? part es with
        | none => .error .missing
        | some e => follow e (here :: above) parts

/-- The entry that a path leads to. The empty path leads nowhere. -/
def lookup (tree : FileTree) (path : Text) : Except Obstacle Entry :=
  if path.contains (Char.ofNat 0) then .error .nullCharacter
  else if path = [] then .error .missing
  else
    let root : Entry := .folder [] tree.entries
    let steps := Text.pieces '/' path
    let start := if Text.startsWith path "/" then [] else tree.workingFolder
    (follow root [] (start ++ steps)).map Prod.fst

/-- Whether a path leads to a file or a folder. -/
def pathExists (tree : FileTree) (path : Text) : Bool :=
  match tree.lookup path with
  | .ok _ => true
  | .error _ => false

/-- The entries of the folder that a path leads to; `none` if it leads to none. -/
def folder? (tree : FileTree) (path : Text) : Option (List Entry) :=
  match tree.lookup path with
  | .ok (.folder _ es) => some es
  | _ => none

/-- What the file that a path leads to holds. -/
def content (tree : FileTree) (path : Text) : Except Obstacle Content :=
  match tree.lookup path with
  | .ok (.file _ c) => .ok c
  | .ok (.folder _ _) => .error .isFolder
  | .error e => .error e

/-- The components of a path from the root on. -/
def components (tree : FileTree) (path : Text) : List Text :=
  Path.resolveDots (Path.join tree.workingPath path)

/-- The tree with a file at the given path, in place of what may be there. -/
def write (tree : FileTree) (path : Text) (content : Content) : FileTree :=
  { tree with
    entries := Entry.insert (fun name => .file name content) (tree.components path) tree.entries }

/-- The tree with a folder at the given path; one that is there stays. -/
def makeFolder (tree : FileTree) (path : Text) : FileTree :=
  match tree.folder? path with
  | some _ => tree
  | none =>
    { tree with
      entries := Entry.insert (fun name => .folder name []) (tree.components path) tree.entries }

/-- The tree without the entry at the given path. -/
def remove (tree : FileTree) (path : Text) : FileTree :=
  { tree with entries := Entry.erase (tree.components path) tree.entries }

end FileTree

/-! ### Reading a file as text -/

/-- Why a file cannot be read as text. -/
inductive ReadFailure
  /-- The file cannot be opened. -/
  | obstacle (o : Obstacle)
  /-- Its bytes are not UTF-8. -/
  | malformed (m : Utf8.Malformed)
  deriving DecidableEq, Repr

/-- The failure in words. -/
def ReadFailure.message (path : Text) : ReadFailure → Text
  | .obstacle o => o.message path
  | .malformed m => m.message

/-- The text of the file at the given path. -/
def FileTree.readText (tree : FileTree) (path : Text) : Except ReadFailure Text :=
  match tree.content path with
  | .error o => .error (.obstacle o)
  | .ok c => (Utf8.decode c.bytes).mapError .malformed

end SuiteLint
