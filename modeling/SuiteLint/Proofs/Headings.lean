import Mathlib.Tactic
import SuiteLint.Proofs.BlankEnds
import SuiteLint.Proofs.UnknownTables

/-!
# Headings

A heading is blanks, asterisks, blanks, a name, and spaces and asterisks up to the end, all in one
cell. These overlap: an asterisk may be one of those before the name, a part of the name, or one of
those after it. What settles this is the order in which the possibilities are tried. Of everything
but the name as much as possible is taken at first, of the name as little as possible, and what was
taken is given back if the rest does not fit (`Pattern.findHeading`).

Nothing ever has to be given back. To begin with, blanks are no asterisks. After the asterisks and
blanks, the one thing that can stop the search is a newline inside the name, and it is still in the
way if fewer of them are taken (`Pattern.findStars_eq_none`). So a heading can be recognised in one
pass (`Pattern.heading?_eq_findHeading`).

No cell of a file has a newline in it, and there the search comes to a closed form: a row is a
heading if its first cell begins with an asterisk after blanks, and its name is what is left when
the marks at both ends are taken off (`Pattern.findHeading_cell`). The kind of a table is the one
whose words its name begins like, of which there is at most one (`TableKind.ofName_eq_iff`).
-/

namespace SuiteLint

namespace Pattern

/-! ### A search that takes back what it has taken -/

/-- Puts a character in front of the first of the texts that were taken. -/
def extend (c : Char) (taken : List Text) : List Text := taken.modifyHead (c :: ·)

/-- Takes as many characters as it can and goes on. If this fails, it gives them back one by
one. -/
def most (p : Char → Bool) (next : Text → Option (List Text)) : Text → Option (List Text)
  | [] => (next []).map ([] :: ·)
  | c :: rest =>
    (if p c then (most p next rest).map (extend c) else none).or
      ((next (c :: rest)).map ([] :: ·))

/-- Takes no more characters than it has to: before each of them, it tries to go on. -/
def fewest (p : Char → Bool) (next : Text → Option (List Text)) : Text → Option (List Text)
  | [] => (next []).map ([] :: ·)
  | c :: rest =>
    ((next (c :: rest)).map ([] :: ·)).or
      (if p c then (fewest p next rest).map (extend c) else none)

/-- Takes one character together with what is taken next. -/
def once (p : Char → Bool) (next : Text → Option (List Text)) : Text → Option (List Text)
  | [] => none
  | c :: rest => if p c then (next rest).map (extend c) else none

/-- Takes nothing, at the end. -/
def ending (text : Text) : Option (List Text) := if atEnd text then some [] else none

/-- Whether a character is an asterisk. -/
def isStar (c : Char) : Bool := c = '*'

/-- Searches for a name: as few characters as possible, none of them a newline, and then as many
spaces and asterisks as possible up to the end. -/
def findName : Text → Option (List Text) := fewest (· ≠ '\n') (most isTrim ending)

/-- Searches for blanks, as many as possible, and then a name. -/
def findGap : Text → Option (List Text) := most Text.isBlank findName

/-- Searches for a heading: blanks, one asterisk or more, blanks, and a name. There are five texts
to be taken, of which the fourth is the name. -/
def findHeading : Text → Option (List Text) :=
  most Text.isBlank (once isStar (most isStar findGap))

variable {p : Char → Bool} {next : Text → Option (List Text)}

/-- Nothing is given back if the search cannot go on with it. -/
theorem most_eq (h : ∀ c rest, p c = true → next (c :: rest) = none) (text : Text) :
    most p next text = (next (text.dropWhile p)).map (text.takeWhile p :: ·) := by
  induction text with
  | nil => rfl
  | cons c rest ih =>
    rw [most]
    split
    next hc =>
      rw [h c rest hc, ih, List.dropWhile_cons_of_pos hc, List.takeWhile_cons_of_pos hc,
        Option.map_none, Option.or_none, Option.map_map]
      rfl
    next hc =>
      rw [List.dropWhile_cons_of_neg hc, List.takeWhile_cons_of_neg hc, Option.none_or]

/-- Nothing is given back if the search can go on without it. -/
theorem most_of_some {text : Text} {taken : List Text} (h : next (text.dropWhile p) = some taken) :
    most p next text = some (text.takeWhile p :: taken) := by
  induction text with
  | nil =>
    rw [most, show next [] = _ from h]
    rfl
  | cons c rest ih =>
    rw [most]
    split
    next hc =>
      rw [List.dropWhile_cons_of_pos hc] at h
      rw [ih h, List.takeWhile_cons_of_pos hc]
      rfl
    next hc =>
      rw [List.dropWhile_cons_of_neg hc] at h
      rw [h, List.takeWhile_cons_of_neg hc]
      rfl

/-- The search fails if it can go on from nowhere. -/
theorem most_eq_none {text : Text}
    (h : ∀ taken rest, text = taken ++ rest → (∀ c ∈ taken, p c = true) → next rest = none) :
    most p next text = none := by
  induction text with
  | nil =>
    rw [most, h [] [] rfl (List.forall_mem_nil _)]
    rfl
  | cons c rest ih =>
    rw [most, h [] (c :: rest) rfl (List.forall_mem_nil _), Option.map_none, Option.or_none]
    split
    next hc =>
      rw [ih fun taken others heq htaken => ?_]
      · rfl
      · exact h (c :: taken) others (congrArg (c :: ·) heq) (List.forall_mem_cons.mpr ⟨hc, htaken⟩)
    next => rfl

/-! ### Names -/

/-- A text is a line, perhaps with a newline at its end. -/
structure EndsLine (text line : Text) : Prop where
  /-- The line is followed by the end, or by a newline and the end. -/
  eq_append : ∃ ending, text = line ++ ending ∧ atEnd ending = true
  /-- The line has no newline in it. -/
  newline_not_mem : '\n' ∉ line

theorem hasInnerNewline_of_suffix {text rest : Text} (hrest : rest <:+ text)
    (h : hasInnerNewline rest = true) : hasInnerNewline text = true := by
  obtain ⟨front, rfl⟩ := hrest
  induction front with
  | nil => exact h
  | cons c front ih => rw [List.cons_append, hasInnerNewline, ih, Bool.or_true]

theorem EndsLine.hasInnerNewline {text line : Text} (h : EndsLine text line) :
    hasInnerNewline text = false := by
  obtain ⟨⟨ending, rfl, hend⟩, hline⟩ := h
  induction line with
  | nil =>
    unfold atEnd at hend
    split at hend
    · rfl
    · rfl
    · cases hend
  | cons c line ih =>
    obtain ⟨hc, hline⟩ := not_or.mp (mt List.mem_cons.mpr hline)
    rw [List.cons_append, Pattern.hasInnerNewline, ih hline, decide_eq_false (Ne.symm hc)]
    rfl

theorem endsLine_dropFinalNewline {text : Text} (h : hasInnerNewline text = false) :
    EndsLine text (dropFinalNewline text) := by
  refine ⟨?_, newline_not_mem_dropFinalNewline h⟩
  rw [dropFinalNewline]
  split
  next hend =>
    obtain ⟨front, rfl⟩ := List.isSuffixOf_iff_suffix.mp hend
    exact ⟨['\n'], by simp, rfl⟩
  next => exact ⟨[], (List.append_nil text).symm, rfl⟩

theorem ending_cons {c : Char} (h : c ≠ '\n') (rest : Text) : ending (c :: rest) = none :=
  if_neg fun hend => h (Text.eq_newline_of_atEnd hend).1

theorem EndsLine.of_cons {c : Char} {text line : Text} (h : EndsLine text (c :: line)) :
    ∃ rest, text = c :: rest ∧ c ≠ '\n' ∧ EndsLine rest line := by
  obtain ⟨⟨ending, rfl, hend⟩, hline⟩ := h
  obtain ⟨hc, hline⟩ := not_or.mp (mt List.mem_cons.mpr hline)
  exact ⟨line ++ ending, rfl, Ne.symm hc, ⟨ending, rfl, hend⟩, hline⟩

theorem EndsLine.of_nil {text : Text} (h : EndsLine text []) : text = [] ∨ text = ['\n'] := by
  obtain ⟨⟨rest, heq, hend⟩, -⟩ := h
  obtain rfl : text = rest := heq
  cases text with
  | nil => exact .inl rfl
  | cons c text =>
    obtain ⟨rfl, rfl⟩ := Text.eq_newline_of_atEnd hend
    exact .inr rfl

/-- Spaces and asterisks lead to the end of a line if they are all there is. -/
theorem most_isTrim {text line : Text} (h : EndsLine text line) :
    most isTrim ending text = if line.all isTrim then some [line] else none := by
  induction line generalizing text with
  | nil => obtain rfl | rfl := h.of_nil <;> rfl
  | cons c line ih =>
    obtain ⟨rest, rfl, hc, hrest⟩ := h.of_cons
    rw [most, ending_cons hc, Option.map_none, Option.or_none, ih hrest, List.all_cons]
    cases isTrim c <;> cases line.all isTrim <;> rfl

theorem most_isTrim_eq_none {text : Text} (h : hasInnerNewline text = true) :
    most isTrim ending text = none := by
  refine most_eq_none fun taken rest heq htaken => if_neg fun hend => ?_
  have hline : EndsLine text taken :=
    ⟨⟨rest, heq, hend⟩, fun hmem => Bool.false_ne_true (htaken _ hmem)⟩
  rw [hline.hasInnerNewline] at h
  cases h

/-- **The name is the line without the spaces and asterisks at its end.** -/
theorem findName_of_endsLine {text line : Text} (h : EndsLine text line) :
    ∃ tail, findName text = some [Text.dropEndWhile isTrim line, tail] ∧
      Text.dropEndWhile isTrim line ++ tail = line := by
  induction line generalizing text with
  | nil => obtain rfl | rfl := h.of_nil <;> exact ⟨[], rfl, rfl⟩
  | cons c line ih =>
    obtain ⟨rest, rfl, hc, hrest⟩ := h.of_cons
    obtain ⟨tail, hfind, htail⟩ := ih hrest
    rw [findName] at hfind
    rw [findName, fewest, most_isTrim h, Text.dropEndWhile_cons]
    split
    · exact ⟨c :: line, rfl, rfl⟩
    · rw [if_pos (decide_eq_true hc), hfind]
      exact ⟨tail, rfl, congrArg (c :: ·) htail⟩

theorem findName_eq_none {text : Text} (h : hasInnerNewline text = true) :
    findName text = none := by
  induction text with
  | nil => cases h
  | cons c rest ih =>
    rw [findName, fewest, most_isTrim_eq_none h, Option.map_none, Option.none_or]
    split
    next hc =>
      have hrest : hasInnerNewline rest = true := by
        simpa [hasInnerNewline, of_decide_eq_true hc] using h
      rw [← findName, ih hrest]
      rfl
    next => rfl

/-! ### Headings -/

theorem findGap_eq_none {text : Text} (h : hasInnerNewline (Text.stripLeft text) = true) :
    findGap text = none := by
  refine most_eq_none fun taken rest heq htaken => findName_eq_none ?_
  rw [Text.stripLeft, heq, List.dropWhile_append_of_pos htaken] at h
  exact hasInnerNewline_of_suffix (List.dropWhile_suffix _) h

/-- To take fewer asterisks does not help, since what is left then begins with one. -/
theorem findStars_eq_none {text : Text}
    (h : hasInnerNewline (Text.stripLeft (text.dropWhile isStar)) = true) :
    most isStar findGap text = none := by
  refine most_eq_none fun taken rest heq htaken => findGap_eq_none ?_
  rw [heq, List.dropWhile_append_of_pos htaken] at h
  rcases rest with _ | ⟨c, rest⟩
  · exact h
  by_cases hc : isStar c = true
  · have hblank : ¬Text.isBlank c = true := by
      obtain rfl : c = '*' := of_decide_eq_true hc
      decide
    rw [Text.stripLeft, List.dropWhile_cons_of_neg hblank]
    exact hasInnerNewline_of_suffix ((List.dropWhile_suffix _).trans (List.dropWhile_suffix _)) h
  · rwa [List.dropWhile_cons_of_neg hc] at h

/-- Whether a text begins with an asterisk, after blanks. -/
def isStarred (text : Text) : Bool := Text.startsWith (Text.stripLeft text) "*"

/-- What follows the blanks, asterisks and blanks that a text begins with. -/
def afterMarks (text : Text) : Text := Text.stripLeft ((Text.stripLeft text).dropWhile isStar)

theorem isStarred_iff {text : Text} :
    isStarred text = true ↔ ∃ inner, Text.stripLeft text = '*' :: inner := by
  rw [isStarred, Text.startsWith, List.isPrefixOf_iff_prefix]
  exact exists_congr fun inner => eq_comm

theorem isStar_eq_false_of_not_starred {text inner : Text} {c : Char}
    (h : isStarred text = false) (hinner : Text.stripLeft text = c :: inner) :
    isStar c = false := by
  rw [Bool.eq_false_iff] at h ⊢
  intro hc
  obtain rfl : c = '*' := of_decide_eq_true hc
  exact h (isStarred_iff.mpr ⟨inner, hinner⟩)

theorem isEmpty_takeWhile_isStar (text : Text) :
    ((Text.stripLeft text).takeWhile isStar).isEmpty = !isStarred text := by
  cases hstar : isStarred text with
  | true =>
    obtain ⟨inner, hinner⟩ := isStarred_iff.mp hstar
    rw [hinner]
    rfl
  | false =>
    rcases hinner : Text.stripLeft text with _ | ⟨c, inner⟩
    · rfl
    · rw [List.takeWhile_cons, isStar_eq_false_of_not_starred hstar hinner]
      rfl

/-- The search takes the blanks that the text begins with, and has no reason to take fewer. -/
theorem findHeading_eq (text : Text) :
    findHeading text = (once isStar (most isStar findGap) (Text.stripLeft text)).map
      (text.takeWhile Text.isBlank :: ·) := by
  refine most_eq (fun c rest hc => if_neg fun hstar => ?_) text
  obtain rfl : c = '*' := of_decide_eq_true hstar
  cases hc

theorem findHeading_of_not_starred {text : Text} (h : isStarred text = false) :
    findHeading text = none := by
  rw [findHeading_eq]
  rcases hinner : Text.stripLeft text with _ | ⟨c, inner⟩
  · rfl
  · rw [once, isStar_eq_false_of_not_starred h hinner]
    rfl

theorem findHeading_of_newline {text : Text} (h : hasInnerNewline (afterMarks text) = true) :
    findHeading text = none := by
  rw [afterMarks] at h
  rw [findHeading_eq]
  rcases hinner : Text.stripLeft text with _ | ⟨c, inner⟩
  · rfl
  · rw [hinner] at h
    rw [once]
    split
    next hc =>
      rw [List.dropWhile_cons_of_pos hc] at h
      rw [findStars_eq_none h]
      rfl
    next => rfl

/-- What the search takes if it succeeds. -/
theorem findHeading_of_starred {text : Text} (h : isStarred text = true)
    (hnewline : hasInnerNewline (afterMarks text) = false) :
    ∃ tail, findHeading text = some [text.takeWhile Text.isBlank,
        (Text.stripLeft text).takeWhile isStar,
        ((Text.stripLeft text).dropWhile isStar).takeWhile Text.isBlank,
        Text.dropEndWhile isTrim (dropFinalNewline (afterMarks text)), tail] ∧
      Text.dropEndWhile isTrim (dropFinalNewline (afterMarks text)) ++ tail =
        dropFinalNewline (afterMarks text) := by
  obtain ⟨inner, hinner⟩ := isStarred_iff.mp h
  have hstar : isStar '*' = true := rfl
  obtain ⟨tail, hname, htail⟩ := findName_of_endsLine (endsLine_dropFinalNewline hnewline)
  refine ⟨tail, ?_, htail⟩
  rw [afterMarks] at hname ⊢
  rw [findHeading_eq]
  rw [hinner, List.dropWhile_cons_of_pos hstar] at hname ⊢
  have hstars : most isStar findGap inner = _ := most_of_some (most_of_some hname)
  rw [once, if_pos hstar, hstars, List.takeWhile_cons_of_pos hstar]
  rfl

theorem heading?_eq (text : Text) :
    heading? text =
      if !isStarred text || hasInnerNewline (afterMarks text) then none
      else
        some ⟨text.takeWhile Text.isBlank ++ (Text.stripLeft text).takeWhile isStar ++
            ((Text.stripLeft text).dropWhile isStar).takeWhile Text.isBlank ++
            dropFinalNewline (afterMarks text),
          [some (Text.dropEndWhile isTrim (dropFinalNewline (afterMarks text)))]⟩ := by
  rw [← isEmpty_takeWhile_isStar]
  rfl

/-- **The search for a heading succeeds at the first try or not at all**, so it can be done without
taking anything back. -/
theorem heading?_eq_findHeading (text : Text) :
    heading? text = (findHeading text).map fun taken => ⟨taken.flatten, [taken[3]?]⟩ := by
  rw [heading?_eq]
  cases hstar : isStarred text with
  | false =>
    rw [findHeading_of_not_starred hstar]
    rfl
  | true =>
    cases hnewline : hasInnerNewline (afterMarks text) with
    | true =>
      rw [findHeading_of_newline hnewline]
      rfl
    | false =>
      -- the name and what follows it make up the line
      obtain ⟨tail, hfind, htail⟩ := findHeading_of_starred hstar hnewline
      rw [hfind]
      simp [htail]

example : findHeading " **x*y *" = some [[' '], ['*', '*'], [], ['x', '*', 'y'], [' ', '*']] := by
  decide

/-! ### Titles -/

/-- The name in a cell that is a heading: what follows its blanks, asterisks and blanks, without the
spaces and asterisks at the end. -/
def title (cell : Text) : Text := Text.dropEndWhile isTrim (afterMarks cell)

theorem newline_not_mem_afterMarks {cell : Text} (h : '\n' ∉ cell) : '\n' ∉ afterMarks cell := by
  have hsuffix : afterMarks cell <:+ cell :=
    (List.dropWhile_suffix _).trans ((List.dropWhile_suffix _).trans (List.dropWhile_suffix _))
  exact fun hmem => h (hsuffix.subset hmem)

/-- **In a cell without newlines, the search fails or finds the title.** -/
theorem findHeading_cell {cell : Text} (h : '\n' ∉ cell) :
    (isStarred cell = false ∧ findHeading cell = none) ∨
    (isStarred cell = true ∧ ∃ margin stars gap tail,
      findHeading cell = some [margin, stars, gap, title cell, tail]) := by
  have hline : EndsLine (afterMarks cell) (afterMarks cell) :=
    ⟨⟨[], (List.append_nil _).symm, rfl⟩, newline_not_mem_afterMarks h⟩
  have hdrop : dropFinalNewline (afterMarks cell) = afterMarks cell := if_neg fun hend =>
    hline.newline_not_mem ((List.isSuffixOf_iff_suffix.mp hend).subset List.mem_cons_self)
  cases hstar : isStarred cell with
  | false => exact .inl ⟨rfl, findHeading_of_not_starred hstar⟩
  | true =>
    obtain ⟨tail, hfind, -⟩ := findHeading_of_starred hstar hline.hasInnerNewline
    rw [hdrop] at hfind
    exact .inr ⟨rfl, _, _, _, tail, hfind⟩

end Pattern

/-! ### Kinds -/

namespace TableKind

/-- The words that the names of tables of a kind begin like. -/
def words : TableKind → List Text
  | settings => ["setting", "metadata"]
  | globals => ["variable"]
  | blocks .test => ["test case", "testcase"]
  | blocks .keyword => ["keyword", "user keyword"]
  | _ => []

/-- A name is one for tables of a kind: it begins like a word for them, or the kind is the unknown
one and the name begins like no word. -/
def IsCalled (kind : TableKind) (name : Text) : Prop :=
  (∃ word ∈ kind.words, Pattern.BeginsLike word name) ∨
    kind = .unknown ∧ ∀ word ∈ Pattern.kindWords, ¬Pattern.BeginsLike word name

theorem mem_all (kind : TableKind) : kind ∈ all := by
  cases kind with
  | blocks kind => cases kind <;> decide
  | _ => decide

theorem isCalled_ofName (name : Text) : (ofName (some name)).IsCalled name := by
  by_cases hunknown : ofName (some name) = .unknown
  · exact .inr ⟨hunknown, ofName_eq_unknown_iff.mp hunknown⟩
  have hcalled {kind : TableKind} {word : Text} (hword : word ∈ kind.words)
      (hname : Pattern.BeginsLike word name) : kind.IsCalled name := .inl ⟨word, hword, hname⟩
  rw [ofName] at hunknown ⊢
  split_ifs at hunknown ⊢ with hsettings hglobals htests hkeywords
  · exact (Pattern.begins_settings_iff.mp hsettings).elim (hcalled (by decide))
      (hcalled (by decide))
  · exact hcalled (by decide) (Pattern.begins_globals_iff.mp hglobals)
  · exact (Pattern.begins_testCases_iff.mp htests).elim (hcalled (by decide)) (hcalled (by decide))
  · exact (Pattern.begins_keywords_iff.mp hkeywords).elim (hcalled (by decide))
      (hcalled (by decide))
  · exact absurd rfl hunknown

theorem IsCalled.eq {kind other : TableKind} {name : Text} (h : kind.IsCalled name)
    (hother : other.IsCalled name) : kind = other := by
  have hknown : ∀ kind ∈ all, ∀ word ∈ kind.words, word ∈ Pattern.kindWords := by decide
  have hdiffer : ∀ kind ∈ all, ∀ other ∈ all, kind ≠ other → ∀ word ∈ kind.words,
      ∀ word' ∈ other.words, Pattern.differ word word' = true := by decide +kernel
  rcases h with ⟨word, hword, hname⟩ | ⟨rfl, hnone⟩ <;>
    rcases hother with ⟨word', hword', hname'⟩ | ⟨rfl, hnone'⟩
  · by_contra hne
    exact Pattern.not_beginsLike_of_differ
      (hdiffer _ (mem_all kind) _ (mem_all other) hne _ hword _ hword') hname hname'
  · exact absurd hname (hnone' word (hknown _ (mem_all kind) _ hword))
  · exact absurd hname' (hnone word' (hknown _ (mem_all other) _ hword'))
  · rfl

/-- **The kind of a table is the one that its name is for.** -/
theorem ofName_eq_iff {kind : TableKind} {name : Text} :
    ofName (some name) = kind ↔ kind.IsCalled name := by
  constructor
  · rintro rfl
    exact isCalled_ofName name
  · exact (isCalled_ofName name).eq

end TableKind

/-! ### Cells -/

theorem Text.flatten_cutGaps_sublist (gap : Text → Nat) (skip : Nat) (text : Text) :
    (cutGaps gap skip text).flatten.Sublist text := by
  induction text generalizing skip with
  | nil => cases skip <;> exact List.Sublist.refl _
  | cons c rest ih =>
    cases skip with
    | succ skip => exact (ih skip).cons c
    | zero =>
      rw [cutGaps]
      split
      · have hcons : ((cutGaps gap 0 rest).modifyHead (c :: ·)).flatten =
            c :: (cutGaps gap 0 rest).flatten := by
          obtain ⟨piece, pieces, hpieces⟩ :=
            List.exists_cons_of_ne_nil (cutGaps_ne_nil gap 0 rest)
          rw [hpieces]
          rfl
        rw [hcons]
        exact (ih 0).cons_cons c
      next n _ => exact (ih n).cons c

theorem Text.mem_of_mem_dropEndWhile {p : Char → Bool} {text : Text} {c : Char}
    (h : c ∈ dropEndWhile p text) : c ∈ text :=
  List.mem_reverse.mp ((List.dropWhile_sublist _).subset (List.mem_reverse.mp h))

theorem newline_not_mem_of_mem_sourceLines {source line : Text} (h : line ∈ sourceLines source) :
    '\n' ∉ line := by
  induction source generalizing line with
  | nil =>
    obtain rfl : line = [] := by simpa [sourceLines, Text.pieces] using h
    exact List.not_mem_nil
  | cons c rest ih =>
    by_cases hc : c = '\n'
    · rw [hc, sourceLines_newline] at h
      rcases List.mem_cons.mp h with rfl | h
      · exact List.not_mem_nil
      · exact ih h
    · obtain ⟨piece, pieces, hpieces⟩ := List.exists_cons_of_ne_nil (sourceLines_ne_nil rest)
      rw [sourceLines_cons hc, hpieces, List.modifyHead_cons] at h
      rw [hpieces] at ih
      rcases List.mem_cons.mp h with rfl | h
      · rw [List.mem_cons, not_or]
        exact ⟨Ne.symm hc, ih List.mem_cons_self⟩
      · exact ih (List.mem_cons_of_mem piece h)

namespace Row

/-- A character in a cell is one in the line. -/
theorem mem_of_mem_cell {text cell : Text} {c : Char} (hcell : cell ∈ cut text)
    (hc : c ∈ cell) : c ∈ text := by
  have hpiece {gap : Text → Nat} {text piece : Text} (hmem : piece ∈ Text.cutBy gap text)
      (hc : c ∈ piece) : c ∈ text :=
    (Text.flatten_cutGaps_sublist gap 0 text).subset (List.mem_flatten.mpr ⟨piece, hmem, hc⟩)
  unfold cut at hcell
  split at hcell
  · obtain ⟨piece, hmem, rfl⟩ := List.mem_map.mp hcell
    have hstrip : c ∈ piece :=
      (List.dropWhile_sublist _).subset (Text.mem_of_mem_dropEndWhile hc)
    have hinside : c ∈ insidePipes text := hpiece hmem hstrip
    unfold insidePipes at hinside
    split at hinside
    · exact List.mem_of_mem_drop (List.mem_of_mem_dropLast hinside)
    · exact List.mem_of_mem_drop hinside
  · exact hpiece hcell hc

theorem newline_not_mem_clean {text : Text} (h : '\n' ∉ text) : '\n' ∉ clean text := by
  intro hmem
  obtain ⟨c, hc, heq⟩ := List.mem_map.mp (Text.mem_of_mem_dropEndWhile hmem)
  split at heq
  · cases heq
  · exact h (heq ▸ hc)

/-- Whether a row is a heading, by its first cell. -/
def isHeading (row : Row) : Bool := row.cells.head?.any Pattern.isStarred

/-- The name in a heading. -/
def title (row : Row) : Text := Pattern.title (row.cells.headD [])

end Row

namespace Document

theorem newline_not_mem_cell {source cell : Text} {row : Row}
    (hrow : row ∈ rowsFrom 1 (Text.fullLines source)) (hcell : cell ∈ row.cells) :
    '\n' ∉ cell := by
  rw [rowsFrom_fullLines] at hrow
  obtain ⟨i, text, htext, rfl⟩ := mem_rowsFrom hrow
  have hline : text ∈ sourceLines source :=
    (Text.withoutEmptyEnd_isPrefix _).subset (List.mem_of_getElem? htext)
  have hclean := Row.newline_not_mem_clean (newline_not_mem_of_mem_sourceLines hline)
  exact fun hmem => hclean (Row.mem_of_mem_cell hcell hmem)

theorem headingName?_eq {row : Row} (h : ∀ cell ∈ row.cells, '\n' ∉ cell) :
    headingName? row = (row.cells.head?.bind Pattern.findHeading).bind (·[3]?) ∧
      headingName? row = if row.isHeading then some row.title else none := by
  obtain ⟨line, raw, _ | ⟨cell, others⟩⟩ := row
  · exact ⟨rfl, rfl⟩
  have hmatch : Pattern.heading.match? true cell = Pattern.heading? cell := rfl
  change _ = (Pattern.findHeading cell).bind (·[3]?) ∧ _
  rcases Pattern.findHeading_cell (h cell List.mem_cons_self) with
    ⟨hstar, hfind⟩ | ⟨hstar, margin, stars, gap, tail, hfind⟩
  · have hname : headingName? ⟨line, raw, cell :: others⟩ = none := by
      simp only [headingName?, hmatch, Pattern.heading?_eq_findHeading, hfind, Option.map_none]
    rw [hname, hfind]
    exact ⟨rfl, (if_neg (Bool.eq_false_iff.mp hstar)).symm⟩
  · have hname : headingName? ⟨line, raw, cell :: others⟩ = some (Pattern.title cell) := by
      simp only [headingName?, hmatch, Pattern.heading?_eq_findHeading, hfind, Option.map_some]
      rfl
    rw [hname, hfind]
    exact ⟨rfl, (if_pos hstar).symm⟩

/-- The tables of rows whose headings can be told by their first cells. -/
theorem map_begun_tablesOf_isHeading {rows : List Row}
    (h : ∀ row ∈ rows, headingName? row = if row.isHeading then some row.title else none) :
    (tablesOf rows).map Table.begun =
      (rows.filter Row.isHeading).map fun row => startTable row row.title := by
  rw [map_begun_tablesOf, ← List.filterMap_eq_map, List.filterMap_filter]
  refine List.filterMap_congr fun row hrow => ?_
  rw [headingTable?, h row hrow]
  cases row.isHeading <;> rfl

/-- A document is a suite if a heading begins a table of test cases. -/
theorem isSuite_iff {document : Document} {rows : List Row}
    (h : document.tables.map Table.begun =
      (rows.filter Row.isHeading).map fun row => startTable row row.title) :
    document.isSuite = true ↔
      ∃ row ∈ rows, row.isHeading = true ∧ TableKind.IsCalled (.blocks .test) row.title := by
  have hbegun : document.isSuite = (document.tables.map Table.begun).any (Table.holds .test) := by
    rw [List.any_map]
    rfl
  rw [hbegun, h, List.any_map, List.any_eq_true]
  refine exists_congr fun row => ?_
  have hkind : (startTable row row.title).holds .test = true ↔
      TableKind.IsCalled (.blocks .test) row.title :=
    decide_eq_true_iff.trans TableKind.ofName_eq_iff
  rw [List.mem_filter, and_assoc, Function.comp_apply, hkind]

/-- **Headings in closed form.** A line of a file is a heading exactly if its first cell begins with
an asterisk after blanks, and this is also how a search for the parts of a heading ends that may
take back what it has taken. The tables of the file are those that its headings begin, in order,
and each is called by the title in its heading, and of the kind that the title is for. The file is a
suite exactly if one of the headings is one for test cases. -/
theorem load_headings {tree : FileTree} {path : Text} {content : Content} {source : Text}
    (hcontent : tree.content path = .ok content)
    (hsource : Utf8.decode content.bytes = .ok source) :
    let rows := rowsFrom 1 (Text.fullLines source)
    ∃ document, load tree path = (document, []) ∧
      (∀ row ∈ rows,
        headingName? row = (row.cells.head?.bind Pattern.findHeading).bind (·[3]?) ∧
        headingName? row = if row.isHeading then some row.title else none) ∧
      List.Forall₂ (fun row table => table.line = row.line ∧ table.name = some row.title ∧
          ∀ kind, table.kind = kind ↔ kind.IsCalled row.title)
        (rows.filter Row.isHeading) document.tables ∧
      (document.isSuite = true ↔
        ∃ row ∈ rows, row.isHeading = true ∧ TableKind.IsCalled (.blocks .test) row.title) := by
  intro rows
  have hnames : ∀ row ∈ rows, _ := fun row hrow =>
    headingName?_eq fun cell hcell => newline_not_mem_cell hrow hcell
  have hbegun := map_begun_tablesOf_isHeading fun row hrow => (hnames row hrow).2
  have hstarted : List.Forall₂ (fun row table => startTable row row.title = Table.begun table)
      (rows.filter Row.isHeading) (tablesOf rows) := by
    rw [← List.forall₂_map_right_iff, hbegun, List.forall₂_map_right_iff]
    exact List.forall₂_same.mpr fun _ _ => rfl
  refine ⟨_, by rw [load, read_eq_of_decode hcontent hsource], hnames, ?_, isSuite_iff hbegun⟩
  refine hstarted.imp fun row table htable => ?_
  have hkind : TableKind.ofName (some row.title) = table.kind := congrArg Table.kind htable
  refine ⟨(congrArg Table.line htable).symm, (congrArg Table.name htable).symm, fun kind => ?_⟩
  rw [← hkind, TableKind.ofName_eq_iff]

/-- A file with two headings. There is an asterisk in the name of the first one, and a long s in
that of the second one. -/
def twoHeadings : FileTree where
  entries := [
    .file "a.robot" { bytes := [42, 32, 42, 32, 120, 10, 42, 84, 101, 197, 191, 116, 32, 67, 97,
      115, 101, 32, 42] }]
  workingFolder := []

/-- The asterisk stays in the name, and the second heading is one for test cases. -/
theorem load_headings_twoHeadings :
    ∃ document, load twoHeadings "a.robot" = (document, []) ∧
      document.tables.map Table.title = [("* x" : Text), "Te\u017ft Case"] ∧
      document.isSuite = true := by
  have hcontent : twoHeadings.content "a.robot" = .ok { bytes := [42, 32, 42, 32, 120, 10, 42, 84,
      101, 197, 191, 116, 32, 67, 97, 115, 101, 32, 42] } := by rfl
  have hsource : Utf8.decode [42, 32, 42, 32, 120, 10, 42, 84, 101, 197, 191, 116, 32, 67, 97, 115,
      101, 32, 42] = .ok "* * x\n*Te\u017ft Case *" := by rfl
  obtain ⟨document, hload, -, htables, hsuite⟩ := load_headings hcontent hsource
  refine ⟨document, hload, ?_, hsuite.mpr ?_⟩
  · have htitles : ((rowsFrom 1 (Text.fullLines "* * x\n*Te\u017ft Case *")).filter
        Row.isHeading).map Row.title = document.tables.map Table.title := by
      rw [← List.forall₂_eq_eq_eq, List.forall₂_map_left_iff, List.forall₂_map_right_iff]
      refine htables.imp fun row table htable => ?_
      rw [Table.title, htable.2.1, Option.getD_some]
    rw [← htitles]
    decide +kernel
  · have hcalled : TableKind.IsCalled (.blocks .test) "Te\u017ft Case" :=
      .inl ⟨"test case", by decide, "Te\u017ft Case", [], rfl, by decide +kernel⟩
    exact ⟨Row.ofLine 2 "*Te\u017ft Case *", by decide +kernel, by decide +kernel, hcalled⟩

end Document

end SuiteLint
