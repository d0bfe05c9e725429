import SuiteLint.Document

/-!
# Folders of suites

A folder can be seen as a suite of suites. Its members are the folders in it and
the files in it with one of two extensions, except for the initialization file,
which says something about the folder itself.

To walk a folder is to visit its members, the members of its folders, and the test
cases and keywords in its documents, each after what it is in. Members are loaded
when they are listed, so complaints about files that cannot be read come for all
members of a folder before any folder among them is looked into.
-/

namespace SuiteLint

/-- The kinds of things that are visited. -/
inductive ThingKind
  /-- A document with test cases. -/
  | suiteFile
  /-- A document without. -/
  | resourceFile
  /-- A folder. -/
  | suiteFolder
  /-- A test case or keyword. -/
  | block (kind : BlockKind)
  deriving DecidableEq, Repr

/-- The name of a kind of things. -/
def ThingKind.name : ThingKind → Text
  | suiteFile => "SuiteFile"
  | resourceFile => "ResourceFile"
  | suiteFolder => "SuiteFolder"
  | block kind => kind.name

/-- Something that is visited. -/
structure Thing where
  /-- Of which kind it is. -/
  kind : ThingKind
  /-- Its name. -/
  name : Text
  /-- The absolute path of the file or folder. -/
  path : Text
  deriving DecidableEq, Repr

/-- Whether things of a kind are wanted; all are if none is named. -/
def wanted (kinds : List ThingKind) (kind : ThingKind) : Bool :=
  kinds.isEmpty || kinds.contains kind

/-! ### Documents -/

/-- A document as a thing. -/
def Document.thing (document : Document) : Thing :=
  ⟨if document.isSuite then .suiteFile else .resourceFile, document.name, document.path⟩

/-- The test cases or keywords of a document, as things. -/
def Document.blockThings (document : Document) (kind : BlockKind) : List Thing :=
  (document.blocks kind).map fun block => ⟨.block kind, block.name, document.path⟩

/-- The wanted test cases and then the wanted keywords of a document. -/
def Document.walk (document : Document) (kinds : List ThingKind) : List Thing :=
  (if wanted kinds (.block .test) then document.blockThings .test else []) ++
    (if wanted kinds (.block .keyword) then document.blockThings .keyword else [])

namespace Folder

/-! ### Members -/

/-- A folder as a thing. -/
def thing (name path : Text) : Thing := ⟨.suiteFolder, name, path⟩

/-- The names of initialization files, the preferred one first. -/
def initNames : List Text := ["__init__.robot", "__init__.txt"]

/-- The path of the initialization file among the entries of a folder. -/
def initPath? (path : Text) (entries : List Entry) : Option Text :=
  (initNames.find? fun name => (Entry.find? name entries).isSome).map (Path.join path)

/-- An initialization file is shown by its path, and is neither a suite nor a
resource file. -/
def initSummary (document : Document) : Text := "<RobotFile(" ++ document.path ++ ")>"

/-- The initialization file of a folder, with what is to be said if it cannot be
read. -/
def loadInit (tree : FileTree) (path : Text) (entries : List Entry) : Option Document × Text :=
  match initPath? path entries with
  | none => (none, [])
  | some file =>
    let (document, complaint) := Document.load tree file
    (some document, complaint)

/-- Whether a file is a member of its folder. -/
def isMember (name : Text) : Bool :=
  (Text.endsWith name ".txt" || Text.endsWith name ".robot") && !initNames.contains name

/-- Loads an entry of a folder: the thing it is, if it is a member, and what is to
be said if a file cannot be read. -/
def loadMember (tree : FileTree) (path : Text) : Entry → Option Thing × Text
  | .folder name entries =>
    let inner := Path.join path name
    (some (thing (Path.stem inner) inner), (loadInit tree inner entries).2)
  | .file name _ =>
    if isMember name then
      let (document, complaint) := Document.load tree (Path.join path name)
      (some document.thing, complaint)
    else (none, [])

/-- The members of a folder. -/
def members (tree : FileTree) (path : Text) (entries : List Entry) : List Thing :=
  entries.filterMap fun entry => (loadMember tree path entry).1

/-- What is to be said about the members of a folder that cannot be read. -/
def memberComplaints (tree : FileTree) (path : Text) (entries : List Entry) : Text :=
  entries.flatMap fun entry => (loadMember tree path entry).2

/-! ### Walking -/

/-- Things that are visited, and what is to be said about files that cannot be
read. -/
structure Walk where
  /-- What is visited. -/
  things : List Thing := []
  /-- What is to be said. -/
  complaints : Text := []
  deriving DecidableEq, Repr

/-- One walk after another. -/
def Walk.append (a b : Walk) : Walk := ⟨a.things ++ b.things, a.complaints ++ b.complaints⟩

/-- A walk that visits only wanted things. -/
def Walk.only (kinds : List ThingKind) (walk : Walk) : Walk :=
  { walk with things := walk.things.filter fun thing => wanted kinds thing.kind }

mutual

/-- Visits an entry of a folder, if it is a member, and what is in it. -/
def walkEntry (tree : FileTree) (kinds : List ThingKind) (path : Text) : Entry → Walk
  | .folder name entries =>
    let inner := Path.join path name
    let inside : Walk := Walk.append
      { complaints := memberComplaints tree inner entries } (walkEntries tree [] inner entries)
    Walk.append
      { things := if wanted kinds .suiteFolder then [thing (Path.stem inner) inner] else [] }
      (inside.only kinds)
  | .file name _ =>
    if isMember name then
      let document := (Document.load tree (Path.join path name)).1
      { things :=
          (if wanted kinds document.thing.kind then [document.thing] else []) ++
            document.walk kinds }
    else {}

/-- Visits the members among entries of a folder, and what is in them. -/
def walkEntries (tree : FileTree) (kinds : List ThingKind) (path : Text) : List Entry → Walk
  | [] => {}
  | entry :: entries =>
    Walk.append (walkEntry tree kinds path entry) (walkEntries tree kinds path entries)

end

/-- Walks a folder: the wanted things in it. -/
def walk (tree : FileTree) (kinds : List ThingKind) (path : Text) (entries : List Entry) : Walk :=
  Walk.append { complaints := memberComplaints tree path entries }
    (walkEntries tree kinds path entries)

end Folder

end SuiteLint
