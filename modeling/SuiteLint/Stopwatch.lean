import SuiteLint.Folder
import SuiteLint.Session

/-!
# Taking times

How long it takes to put the steps of a file together can be measured, and also how
long it takes to read a file as compared with another way to read it.

The time that something took is shown in whole milliseconds, cut off towards zero.
The readings of the clock are fractions of a second, kept exactly.
-/

namespace SuiteLint

/-- A reading of the clock, in seconds: a quotient. -/
structure Instant where
  /-- The numerator. -/
  num : Int
  /-- The denominator. -/
  den : Nat
  deriving DecidableEq, Repr

namespace Stopwatch

/-- The milliseconds between two readings, cut off towards zero. -/
def milliseconds (start stop : Instant) : Int :=
  Int.tdiv (1000 * (stop.num * start.den - start.num * stop.den)) (start.den * stop.den)

/-- The line that shows how long something took. -/
def line (name : Text) (start stop : Instant) : Text :=
  Text.line (name ++ " : " ++ Text.ofInt (milliseconds start stop) ++ " ms")

/-- Loads what a path leads to and shows how long it took to put the steps of its
test cases together. A folder has no steps. -/
def timeSteps (tree : FileTree) (path : Text) (start stop : Instant) : Action Unit := do
  match tree.folder? path with
  | some entries =>
    Action.complain (Folder.loadInit tree (tree.absolute path) entries).2
    Action.fail (.lacks "SuiteFolder" "tables")
  | none =>
    Action.complain (Document.load tree path).2
    Action.print (line "dump" start stop)

/-- Shows how long it took to read the first of the given files in two ways, of
which the second one complains if it cannot be read. -/
def compareReaders (tree : FileTree) (paths : List Text) (clock : List Instant) : Action Unit := do
  match paths, clock with
  | path :: _, a :: b :: c :: d :: _ =>
    Action.print (line "test_robot" a b)
    Action.complain (Document.load tree path).2
    Action.print (line "test_mine" c d)
  | _, _ =>
    Action.print (Text.line "give me a filename on the command line")
    Action.stop (.exit 1)

end Stopwatch

end SuiteLint
