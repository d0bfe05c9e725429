import SuiteLint.Text

/-!
# Sets of code points

A property of characters is given by the code points that have it. Where these
come in long stretches, the set is written as the increasing list of its *bounds*:
the first code point of the set, the first one after it that is not in the set,
the next one that is, and so on. A code point is then in the set when an odd
number of bounds lie at or below it. Where every second code point of a stretch
has the property, the set is a list of *runs* with a step.
-/

namespace SuiteLint

namespace Text

/-- Whether a code point lies in the set with the given bounds. -/
def within (bounds : List Nat) (n : Nat) : Bool := (bounds.takeWhile (· ≤ n)).length % 2 == 1

/-- The code points from `first` to `last` that lie a multiple of `step` after `first`. -/
structure Run where
  /-- The first code point of the run. -/
  first : Nat
  /-- The last code point of the run. -/
  last : Nat
  /-- The distance between neighbours. -/
  step : Nat

/-- Whether a code point belongs to a run. -/
def Run.has (run : Run) (n : Nat) : Bool :=
  run.first ≤ n && n ≤ run.last && (n - run.first) % run.step == 0

end Text

end SuiteLint
