/-!
# Text

Everything the linter reads, compares and prints is text, and nearly every rule
of it is a rule about single characters: where a line ends, which characters
separate two cells, how a name is compared with another. Text is therefore kept
as the list of its characters, so that a rule can be a recursion on the text and
a fact about a rule can be an induction on it. A string literal stands for its
list of characters wherever a text is expected.

This file has the operations that look at no property of a character other than
which character it is.
-/

namespace SuiteLint

/-- A text is the list of its characters. -/
abbrev Text := List Char

instance : Coe String Text := ⟨String.toList⟩

namespace Text

/-! ### Numbers as text -/

/-- The decimal digits of a natural number. -/
def ofNat (n : Nat) : Text := Nat.toDigits 10 n

/-- The decimal digits of an integer, after a minus sign if it is negative. -/
def ofInt : Int → Text
  | .ofNat n => ofNat n
  | .negSucc n => '-' :: ofNat (n + 1)

/-! ### Taking texts apart and putting them together -/

/-- The parts one after the other, with `between` between each two. -/
def joinWith (between : Text) (parts : List Text) : Text := between.intercalate parts

/-- The pieces of a text between the occurrences of one character: one piece more
than there are occurrences. -/
def pieces (c : Char) (text : Text) : List Text := text.splitOn c

theorem length_pieces (c : Char) (text : Text) : (pieces c text).length = text.count c + 1 := by
  unfold pieces
  induction text with
  | nil => rfl
  | cons d rest ih =>
    rw [List.splitOn_cons_eq_if_modifyHead, List.count_cons]
    split
    · rw [List.length_cons, ih]
    · rw [List.length_modifyHead, ih, Nat.add_zero]

/-- The text with each occurrence of one character replaced by another. -/
def replaceChar (old new : Char) (text : Text) : Text :=
  text.map fun c => if c = old then new else c

/-- The text without any occurrence of one character. -/
def without (c : Char) (text : Text) : Text := text.filter (· ≠ c)

/-- Whether a text begins with another. -/
def startsWith (text start : Text) : Bool := start.isPrefixOf text

/-- Whether a text ends with another. -/
def endsWith (text tail : Text) : Bool := tail.isSuffixOf text

/-- The text before the first occurrence of a character and the text after it;
`none` if the character does not occur. -/
def cutAt (c : Char) : Text → Option (Text × Text)
  | [] => none
  | d :: rest =>
    if d = c then some ([], rest) else (cutAt c rest).map fun (a, b) => (d :: a, b)

/-- The text without the longest run at its end whose characters all satisfy `p`. -/
def dropEndWhile (p : Char → Bool) (text : Text) : Text := (text.reverse.dropWhile p).reverse

/-- One more character in front is kept unless all satisfy `p`. -/
theorem dropEndWhile_cons (p : Char → Bool) (c : Char) (rest : Text) :
    dropEndWhile p (c :: rest) =
      if (c :: rest).all p then [] else c :: dropEndWhile p rest := by
  have hsplit : rest.reverse.takeWhile p ++ rest.reverse.dropWhile p = rest.reverse :=
    List.takeWhile_append_dropWhile
  rw [dropEndWhile, dropEndWhile, List.reverse_cons, List.dropWhile_append]
  cases hdrop : rest.reverse.dropWhile p with
  | nil =>
    have hrest : rest.all p = true := by
      rw [hdrop, List.append_nil] at hsplit
      rw [← List.all_reverse, ← hsplit, List.all_takeWhile]
    rw [List.isEmpty_nil, if_pos rfl, List.all_cons, hrest, Bool.and_true]
    cases hc : p c <;> simp [List.dropWhile, hc]
  | cons d others =>
    have hall : ¬(c :: rest).all p = true := by
      intro hall
      have hrest : ∀ e ∈ rest.reverse, p e = true := fun e he =>
        List.all_eq_true.mp hall e (List.mem_cons_of_mem c (List.mem_reverse.mp he))
      have hnil : (rest.reverse ++ []).dropWhile p = [] := List.dropWhile_append_of_pos hrest
      rw [List.append_nil, hdrop] at hnil
      cases hnil
    rw [List.isEmpty_cons, if_neg Bool.false_ne_true, if_neg hall, List.reverse_append]
    rfl

/-- One line of output. -/
def line (text : Text) : Text := text ++ "\n"

/-- Several lines of output. -/
def page (lines : List Text) : Text := lines.flatMap line

/-! ### The order of texts -/

/-- Whether a text comes no later than another in the order by code points, in
which a text comes before its continuations. -/
def le : Text → Text → Bool
  | [], _ => true
  | _ :: _, [] => false
  | a :: as, b :: bs => a.toNat < b.toNat || (a == b && le as bs)

/-! ### Cutting at separators -/

/-- The pieces of a text between separators. `gap` measures the separator that
begins a text, with 0 for none; `skip` characters of a separator already
recognised are still to be passed over. -/
def cutGaps (gap : Text → Nat) : Nat → Text → List Text
  | _, [] => [[]]
  | skip + 1, _ :: rest => cutGaps gap skip rest
  | 0, c :: rest =>
    match gap (c :: rest) with
    | 0 => (cutGaps gap 0 rest).modifyHead (c :: ·)
    | n + 1 => [] :: cutGaps gap n rest

/-- The pieces of a text between separators, which are searched from the left and
measured by `gap`. There is always at least one piece. -/
def cutBy (gap : Text → Nat) (text : Text) : List Text := cutGaps gap 0 text

theorem cutGaps_ne_nil (gap : Text → Nat) (skip : Nat) (text : Text) :
    cutGaps gap skip text ≠ [] := by
  induction text generalizing skip with
  | nil => cases skip <;> simp [cutGaps]
  | cons c rest ih =>
    cases skip with
    | succ skip => exact ih skip
    | zero =>
      rw [cutGaps]
      split
      · cases h : cutGaps gap 0 rest with
        | nil => exact absurd h (ih 0)
        | cons => simp
      · simp

theorem cutBy_ne_nil (gap : Text → Nat) (text : Text) : cutBy gap text ≠ [] :=
  cutGaps_ne_nil gap 0 text

end Text

end SuiteLint
