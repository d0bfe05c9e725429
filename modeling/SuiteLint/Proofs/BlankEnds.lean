import Mathlib.Data.List.DropRight
import Mathlib.Tactic
import SuiteLint.Proofs.LineEndings
import SuiteLint.Proofs.LineNumbers

/-!
# Blank lines at the end of a file

The check on blank lines at the end of a file counts the newlines among the blanks that the text
ends with. There are two ways to find these blanks. One is to go back from the end for as long
as there are blanks. The other is to search from the left for a place where nothing but blanks
follows up to the end, and it is not clear at once that this comes to the same: the first place
at which the search succeeds might be one from which not all blanks are taken, since a text may
also count as ended before a newline that is its last character. It never does, because a run
of blanks goes on over that newline (`Text.blanksToEnd?_eq`), and so the two ways agree
(`Text.findBlankEnd?_eq`).

The line that is reported is worked out as a difference of two counts. It has a meaning of its
own: it is as many lines below the last line with something on it as blank lines are allowed
(`Document.blankEnd_apply`).
-/

namespace SuiteLint

namespace Text

/-! ### The blank end of a text -/

/-- A text is divided where its longest blank end begins. -/
structure EndsBlank (source body blanks : Text) : Prop where
  /-- The two parts make up the text. -/
  eq_append : source = body ++ blanks
  /-- The second part is blank. -/
  blank : ∀ c ∈ blanks, isBlank c = true
  /-- There is no longer part at the end that is blank. -/
  longest : ∀ {other rest : Text}, source = other ++ rest → (∀ c ∈ rest, isBlank c = true) →
    rest <:+ blanks

theorem stripRight_append_blankEnd (text : Text) : stripRight text ++ blankEnd text = text :=
  List.rdropWhile_append_rtakeWhile

theorem endsBlank (source : Text) : EndsBlank source (stripRight source) (blankEnd source) where
  eq_append := (stripRight_append_blankEnd source).symm
  blank := fun _ hc => List.mem_rtakeWhile_imp hc
  longest := by
    rintro other rest rfl hblank
    exact ⟨blankEnd other, (blankEnd_append_of_blank other hblank).symm⟩

theorem stripRight_eq_nil {text : Text} (h : text.all isBlank = true) : stripRight text = [] :=
  List.rdropWhile_eq_nil_iff.mpr (List.all_eq_true.mp h)

/-- One more character in front is kept unless all is blank. -/
theorem stripRight_cons (c : Char) (rest : Text) :
    stripRight (c :: rest) = if (c :: rest).all isBlank then [] else c :: stripRight rest :=
  dropEndWhile_cons isBlank c rest

/-! ### Searching from the left -/

/-- The blanks that a text begins with, as many as possible, where the end of the text or a
newline at its end has to follow. If it does not follow, blanks are given back one by one. -/
def blanksToEnd? : Text → Option Text
  | [] => some []
  | c :: rest =>
    (if isBlank c then (blanksToEnd? rest).map (c :: ·) else none).or
      (if Pattern.atEnd (c :: rest) then some [] else none)

/-- The first place in a text from which blanks lead to its end: what comes before it, and the
blanks. -/
def findBlankEnd? : Text → Option (Text × Text)
  | [] => (blanksToEnd? []).map fun blanks => ([], blanks)
  | c :: rest =>
    ((blanksToEnd? (c :: rest)).map fun blanks => ([], blanks)).or
      ((findBlankEnd? rest).map fun (body, blanks) => (c :: body, blanks))

/-- Only the newline itself is a text that counts as ended before it. -/
theorem eq_newline_of_atEnd {c : Char} {rest : Text} (h : Pattern.atEnd (c :: rest) = true) :
    c = '\n' ∧ rest = [] := by
  unfold Pattern.atEnd at h
  split at h
  next heq => cases heq
  next heq => exact List.cons.inj heq
  next => cases h

/-- Blanks lead to the end of a text only if it is all blank, and then all of it is taken. -/
theorem blanksToEnd?_eq (text : Text) :
    blanksToEnd? text = if text.all isBlank then some text else none := by
  induction text with
  | nil => rfl
  | cons c rest ih =>
    rw [blanksToEnd?, ih]
    by_cases hall : (c :: rest).all isBlank = true
    · obtain ⟨hc, hrest⟩ := Bool.and_eq_true_iff.mp hall
      rw [if_pos hall, if_pos hc, if_pos hrest]
      rfl
    · -- a newline that ends the text would be all of it, and blank
      have hend : ¬Pattern.atEnd (c :: rest) = true := by
        intro hend
        obtain ⟨rfl, rfl⟩ := eq_newline_of_atEnd hend
        exact hall rfl
      rw [if_neg hall, if_neg hend, Option.or_none]
      split
      next hc =>
        have hrest : ¬rest.all isBlank = true := fun hrest =>
          hall (Bool.and_eq_true_iff.mpr ⟨hc, hrest⟩)
        rw [if_neg hrest]
        rfl
      next => rfl

/-- **The search finds the longest blank end.** -/
theorem findBlankEnd?_eq (text : Text) :
    findBlankEnd? text = some (stripRight text, blankEnd text) := by
  induction text with
  | nil => rfl
  | cons c rest ih =>
    have hparts := stripRight_append_blankEnd (c :: rest)
    rw [findBlankEnd?, ih, blanksToEnd?_eq]
    rw [stripRight_cons] at hparts ⊢
    split
    next hall =>
      rw [if_pos hall, List.nil_append] at hparts
      rw [hparts]
      rfl
    next hall =>
      rw [if_neg hall, List.cons_append, List.cons_inj_right] at hparts
      have hrest := List.append_cancel_left (hparts.trans (stripRight_append_blankEnd rest).symm)
      rw [hrest]
      rfl

end Text

/-! ### The last line with something on it -/

/-- Whether a line, which comes with its number, has a character that is not blank. -/
def isFilledLine : Text × Nat → Bool
  | (line, _) => line.any (!Text.isBlank ·)

/-- The number of the last line, from a given one on, with a character that is not blank. -/
def lastFilledFrom (first : Nat) (lines : List Text) : Option Nat :=
  ((lines.zipIdx first).filter isFilledLine).getLast?.map Prod.snd

/-- The number of the last line of a text with a character that is not blank, or 1 if there is
none. -/
def lastFilledLine (source : Text) : Nat := (lastFilledFrom 1 (sourceLines source)).getD 1

theorem lastFilledFrom_cons (first : Nat) (line : Text) (lines : List Text) :
    lastFilledFrom first (line :: lines) = (lastFilledFrom (first + 1) lines).or
      (if line.any (!Text.isBlank ·) then some first else none) := by
  rw [lastFilledFrom, List.zipIdx_cons, List.filter_cons, isFilledLine, lastFilledFrom]
  split
  · rw [List.getLast?_cons]
    cases (List.filter isFilledLine (lines.zipIdx (first + 1))).getLast? <;> rfl
  · rw [Option.or_none]

/-- A character in front of the first line matters only if no line has something on it. -/
theorem lastFilledFrom_modifyHead (first : Nat) (c : Char) {lines : List Text} (h : lines ≠ []) :
    lastFilledFrom first (lines.modifyHead (c :: ·)) = (lastFilledFrom first lines).or
      (if Text.isBlank c then none else some first) := by
  obtain ⟨line, lines, rfl⟩ := List.exists_cons_of_ne_nil h
  rw [List.modifyHead_cons, lastFilledFrom_cons, lastFilledFrom_cons, Option.or_assoc,
    List.any_cons]
  cases Text.isBlank c <;> cases line.any (!Text.isBlank ·) <;> rfl

/-- **The last line with something on it** comes after as many newlines as there are before the
blank end. -/
theorem lastFilledFrom_sourceLines (first : Nat) (source : Text) :
    lastFilledFrom first (sourceLines source) =
      if source.all Text.isBlank then none
      else some (first + (Text.stripRight source).count '\n') := by
  induction source generalizing first with
  | nil => rfl
  | cons c rest ih =>
    rw [Text.stripRight_cons, List.all_cons]
    by_cases hc : c = '\n'
    · -- the lines of the rest are one further down
      subst hc
      have hblank : Text.isBlank '\n' = true := rfl
      rw [sourceLines_newline, lastFilledFrom_cons, ih, List.any_nil, hblank]
      cases rest.all Text.isBlank with
      | true => rfl
      | false =>
        simp only [Bool.and_false, Bool.false_eq_true, if_false, List.count_cons_self,
          Option.or_none, Option.some.injEq]
        omega
    · rw [sourceLines_cons hc, lastFilledFrom_modifyHead first c (sourceLines_ne_nil rest), ih]
      cases hrest : rest.all Text.isBlank with
      | true =>
        rw [Text.stripRight_eq_nil hrest]
        cases Text.isBlank c <;> simp [hc]
      | false => simp [hc]

theorem lastFilledLine_eq (source : Text) :
    lastFilledLine source = 1 + (Text.stripRight source).count '\n' := by
  rw [lastFilledLine, lastFilledFrom_sourceLines]
  split
  next hall =>
    rw [Text.stripRight_eq_nil hall]
    rfl
  next => rfl

/-! ### The check -/

/-- **Where blank lines at the end are reported.** There is one report if the blank end of the
text, which is also what a search from the left finds, has more newlines than allowed, and none
otherwise. The report is as many lines below the last line with something on it as are allowed,
or below line 1 if there is nothing on any line. -/
theorem Document.blankEnd_apply {document : Document} {source : Text}
    (hsource : document.source = some source) (limit : Int) :
    ∃ body blanks : Text, Text.EndsBlank source body blanks ∧
      Text.findBlankEnd? source = some (body, blanks) ∧
      lastFilledLine source = 1 + body.count '\n' ∧
      GeneralCheck.apply document (.blankEnd limit) =
        .ok (if (blanks.count '\n' : Int) > limit then
          [{ line := (1 + body.count '\n' : Nat) + limit
             message := "Too many trailing blank lines" }]
          else []) := by
  refine ⟨Text.stripRight source, Text.blankEnd source, Text.endsBlank source,
    Text.findBlankEnd?_eq source, lastFilledLine_eq source, ?_⟩
  have hcount : source.count '\n' =
      (Text.stripRight source).count '\n' + (Text.blankEnd source).count '\n' := by
    rw [← List.count_append, Text.stripRight_append_blankEnd]
  have hline : ((sourceLines source).length : Int) - (Text.blankEnd source).count '\n' + limit =
      (1 + (Text.stripRight source).count '\n' : Nat) + limit := by
    rw [length_sourceLines, hcount]
    push_cast
    ring
  rw [GeneralCheck.apply, inSource, hsource]
  simp only [blankEndRemarks, hline]

/-- There are blanks after the last letter and on two of the three blank lines, the last of which
has no newline. -/
theorem Document.blankEnd_apply_spaced :
    let source : Text := "a\n b \n \n\n  "
    let document : Document := ⟨"a", "/a.robot", some source, []⟩
    lastFilledLine source = 2 ∧
      GeneralCheck.apply document (.blankEnd 1) =
        .ok [{ line := 3, message := "Too many trailing blank lines" }] ∧
      GeneralCheck.apply document (.blankEnd 3) = .ok [] := by
  intro source document
  have hsource : document.source = some source := rfl
  have hfound : Text.findBlankEnd? source =
      some (("a\n b" : Text), (" \n \n\n  " : Text)) := by decide +kernel
  obtain ⟨body, blanks, -, hfind, hlast, hone⟩ := blankEnd_apply hsource 1
  obtain ⟨body', blanks', -, hfind', -, hthree⟩ := blankEnd_apply hsource 3
  obtain ⟨rfl, rfl⟩ := Prod.mk.inj (Option.some.inj (hfound.symm.trans hfind))
  obtain ⟨rfl, rfl⟩ := Prod.mk.inj (Option.some.inj (hfound.symm.trans hfind'))
  exact ⟨hlast, hone, hthree⟩

end SuiteLint
