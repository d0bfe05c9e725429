import SuiteLint.Fault

/-!
# Positions in a list

A position that is not negative counts from the front, a negative one from the
end: the position -1 is that of the last element. A threshold that the user
configures can become a position, so any integer can occur. One at which there is
nothing is refused, and if it has more than 64 bits, it is refused as such.
-/

namespace SuiteLint

namespace Position

/-- The index that a position of a list of the given length stands for. -/
def index? (length : Nat) (position : Int) : Option Nat :=
  let i := if position < 0 then position + length else position
  if 0 ≤ i ∧ i < length then some i.toNat else none

/-- Whether a position fits in 64 bits. -/
def fits (position : Int) : Bool :=
  -(Nat.pow 2 63 : Int) ≤ position && position < (Nat.pow 2 63 : Int)

/-- The element at a position. -/
def get {α : Type} (items : List α) (position : Int) : Except Fault α :=
  match index? items.length position with
  | none => .error (if fits position then .noItem else .farPosition)
  | some i =>
    match items[i]? with
    | none => .error .noItem
    | some item => .ok item

/-- The list with another element at a position. -/
def set {α : Type} (items : List α) (position : Int) (item : α) : Except Fault (List α) :=
  match index? items.length position with
  | none => .error (if fits position then .noPlace else .farPosition)
  | some i => .ok (items.set i item)

/-- The number of elements before a position, which may lie outside the list. -/
def clamp (length : Nat) (position : Int) : Nat :=
  min (if position < 0 then position + length else position).toNat length

/-- The elements from one position up to another; a missing position is the
respective end of the list. -/
def slice {α : Type} (items : List α) (start stop : Option Int) : List α :=
  let first := (start.map (clamp items.length)).getD 0
  let last := (stop.map (clamp items.length)).getD items.length
  (items.take last).drop first

end Position

end SuiteLint
