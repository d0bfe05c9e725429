import SuiteLint.Session.Run

/-!
# The command

The linter works on a tree of files that it is given as a value. The command makes
that tree from what its arguments name, lets the linter run, prints what the run
printed, and ends with its exit status.

An argument can name a path by itself, after an equals sign, or joined to a short
option. An argument that names nothing is no obstacle here: it is the run that
complains about it. If an argument file may be among the arguments, the files they
name are also searched for arguments.
-/

namespace SuiteLint

namespace Command

/-- How deep folders, and argument files, are followed. -/
def depth : Nat := 64

/-- The paths that an argument may name. -/
def pathsIn (argument : Text) : List Text :=
  [argument, argument.drop 2, (argument.dropWhile (· ≠ '=')).drop 1].filter (!·.isEmpty)

/-- Whether an argument may be about an argument file. -/
def mayNest (argument : Text) : Bool :=
  Text.startsWith argument "-A" || Text.startsWith (Text.lower argument) "--a"

/-- A file with the given bytes, which holds a rule pack if its name says so. -/
def contentOf (path : Text) (bytes : ByteArray) : Content :=
  { bytes := bytes.toList, pack := RulePack.named? (Path.stem path) }

/-- Adds to a tree what is at the given path, if there is something. -/
def load (tree : FileTree) : (depth : Nat) → (path : Text) → IO FileTree
  | 0, _ => return tree
  | depth + 1, path => do
    try
      let place ← IO.FS.realPath (String.ofList path)
      if ← place.isDir then
        let mut grown := tree.makeFolder path
        for entry in ← place.readDir do
          grown ← load grown depth (Path.join path entry.fileName.toList)
        return grown
      else
        return tree.write path (contentOf path (← IO.FS.readBinFile place))
    catch _ => return tree

/-- The arguments in the file at the given path, if it is an argument file. -/
def argumentsAt (tree : FileTree) (path : Text) : List Text :=
  match tree.readText path with
  | .ok text => ArgumentFile.arguments text
  | .error _ => []

/-- Adds to a tree what arguments name, apart from the paths in `seen`. -/
def gather (tree : FileTree) (seen : List Text) :
    (depth : Nat) → (arguments : List Text) → IO FileTree
  | 0, _ => return tree
  | bound + 1, arguments => do
    let paths := ((arguments.flatMap pathsIn).filter (!seen.contains ·)).eraseDups
    let grown ← paths.foldlM (fun tree path => load tree depth path) tree
    if arguments.any mayNest then
      gather grown (paths ++ seen) bound (paths.flatMap (argumentsAt grown))
    else return grown

/-- What standard input gives, if an argument asks for it. -/
def standardInput (arguments : List Text) : IO Text := do
  if (arguments.flatMap pathsIn).any Session.isStandardInput then
    return (← (← IO.getStdin).readToEnd).toList
  return []

/-- The folder with the rule packs of the site, beside the program. -/
def siteFolder : IO Text := do
  let place := (← IO.appPath).parent.getD "."
  return Path.join place.toString.toList "site-rules"

/-- Runs the linter and gives its exit status. -/
def run (arguments : List Text) : IO UInt32 := do
  let here := (← IO.currentDir).toString.toList
  let site ← siteFolder
  let start : FileTree := { entries := [], workingFolder := Path.resolveDots here }
  let withSite ← load (start.makeFolder here) depth site
  let tree ← gather withSite [] depth arguments
  let outcome := Session.program tree site arguments { input := ← standardInput arguments }
  (← IO.getStdout).putStr (String.ofList outcome.out)
  (← IO.getStderr).putStr (String.ofList outcome.err)
  match outcome.result with
  | .error (.exit status) => return status.toUInt32
  | _ => return 1

end Command

end SuiteLint

/-- The command line. -/
def main (arguments : List String) : IO UInt32 :=
  SuiteLint.Command.run (arguments.map String.toList)
