import SuiteLint.Text

/-!
# Paths

A path is a text whose components are divided by slashes. The *extension* of a
path is what follows the last dot of its last component, with the dot, unless only
dots come before it: a name such as `.robot` has no extension.
-/

namespace SuiteLint

namespace Path

/-- The last component of a path. It is empty if the path ends with a slash. -/
def base (path : Text) : Text := (path.reverse.takeWhile (· ≠ '/')).reverse

/-- The extension of a path, with its dot; empty if there is none. -/
def extension (path : Text) : Text :=
  let name := base path
  let tail := (name.reverse.takeWhile (· ≠ '.')).reverse
  let stem := name.take (name.length - tail.length - 1)
  if name.contains '.' && stem.any (· ≠ '.') then '.' :: tail else []

/-- The last component of a path without its extension. -/
def stem (path : Text) : Text :=
  let name := base path
  name.take (name.length - (extension name).length)

/-- The path of something in a folder. -/
def join (folder path : Text) : Text :=
  if Text.startsWith path "/" then path
  else if folder.isEmpty || Text.endsWith folder "/" then folder ++ path
  else folder ++ "/" ++ path

/-- Adds a component to a list of components, the last one first. A component that
is empty or a single dot adds nothing, two dots take the last one away. -/
def addComponent (parts : List Text) (part : Text) : List Text :=
  if part = [] ∨ part = "." then parts
  else if part = ".." then parts.tail
  else part :: parts

/-- The components of an absolute path once the dots are resolved. -/
def resolveDots (path : Text) : List Text :=
  ((Text.pieces '/' path).foldl addComponent []).reverse

/-- The slashes that an absolute path begins with: exactly two are kept, more
count as one. -/
def rootSlashes (path : Text) : Text :=
  if Text.startsWith path "//" && !Text.startsWith path "///" then "//" else "/"

/-- The absolute path without superfluous components, seen from a working folder
given by its absolute path. -/
def absolute (workingFolder path : Text) : Text :=
  let full := join workingFolder path
  rootSlashes full ++ Text.joinWith "/" (resolveDots full)

end Path

end SuiteLint
