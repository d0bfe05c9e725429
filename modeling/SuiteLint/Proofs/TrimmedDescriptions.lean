import Mathlib.Data.List.DropRight
import Mathlib.Tactic
import SuiteLint.Doc

/-!
# What is left of a description

A description is shown without the indentation of the code that it stands in. Three things have
to be seen about this. There is always a first line to begin with, since a text that is not empty
has lines, and tabs do not make it empty (`Text.exists_lines_expandTabs`). The margin that is
taken off the later lines consists of blanks alone, in every line that has something on it, and
one of these lines has no further blanks (`Doc.IsMargin`). And dropping empty lines at the two
ends drops nothing else (`Doc.filter_dropEmptyEnds`).

So the lines with something on them are those of the description, one for one and in the same
order, and the later ones are indented relative to each other as they were (`Doc.trim_shows`).
-/

namespace SuiteLint

namespace Text

/-! ### Lines -/

theorem lines_ne_nil {text : Text} (h : text ≠ []) : lines text ≠ [] := by
  fun_cases lines text with
  | case1 => exact absurd rfl h
  | case2 | case3 | case4 | case5 => exact List.cons_ne_nil _ _

theorem expandTabs_ne_nil {text : Text} (h : text ≠ []) : expandTabs text ≠ [] := by
  obtain ⟨c, rest, rfl⟩ := List.exists_cons_of_ne_nil h
  rw [expandTabs, expandTabsFrom]
  split
  · exact List.append_ne_nil_of_left_ne_nil (by decide) _
  · split <;> exact List.cons_ne_nil _ _

/-- A text that is not empty has a first line, also after its tabs have been replaced. -/
theorem exists_lines_expandTabs {text : Text} (h : text ≠ []) :
    ∃ first later, lines (expandTabs text) = first :: later :=
  List.exists_cons_of_ne_nil (lines_ne_nil (expandTabs_ne_nil h))

/-- There are no line breaks in lines. -/
theorem not_isLineBreak_of_mem_lines {text line : Text} (h : line ∈ lines text) :
    ∀ c ∈ line, isLineBreak c = false := by
  fun_induction lines text generalizing line with
  | case1 => cases h
  | case2 rest ih =>
    rcases List.mem_cons.mp h with rfl | h
    · exact fun c hc => absurd hc List.not_mem_nil
    · exact ih h
  | case3 c rest _ hbreak ih =>
    rcases List.mem_cons.mp h with rfl | h
    · exact fun c hc => absurd hc List.not_mem_nil
    · exact ih h
  | case4 c rest _ hbreak hnone =>
    obtain rfl := List.mem_singleton.mp h
    simpa using hbreak
  | case5 c rest _ hbreak first others hsome ih =>
    rw [hsome] at ih
    rcases List.mem_cons.mp h with rfl | h
    · rw [List.forall_mem_cons]
      exact ⟨by simpa using hbreak, ih List.mem_cons_self⟩
    · exact ih (List.mem_cons_of_mem first h)

end Text

namespace Doc

/-! ### Margins -/

/-- Whether a line has a character that is not blank. -/
def isFilled (line : Text) : Bool := line.any (!Text.isBlank ·)

/-- The number of blanks that a line begins with. -/
def leading (line : Text) : Nat := (line.takeWhile Text.isBlank).length

/-- A line without a margin, and without the blanks at its end. -/
def outdent (margin : Nat) (line : Text) : Text := Text.stripRight (line.drop margin)

/-- A line has something on it if there is a first character after its leading blanks. -/
theorem isFilled_iff {line : Text} :
    isFilled line = true ↔ ∃ blanks c rest, line = blanks ++ c :: rest ∧
      (∀ b ∈ blanks, Text.isBlank b = true) ∧ Text.isBlank c = false := by
  constructor
  · intro h
    have hne : line.dropWhile Text.isBlank ≠ [] := by
      intro hnil
      obtain ⟨c, hc, hfilled⟩ := List.any_eq_true.mp h
      rw [List.dropWhile_eq_nil_iff.mp hnil c hc] at hfilled
      cases hfilled
    obtain ⟨c, rest, hrest⟩ := List.exists_cons_of_ne_nil hne
    refine ⟨line.takeWhile Text.isBlank, c, rest, ?_, fun b hb => List.mem_takeWhile_imp hb, ?_⟩
    · rw [← hrest, List.takeWhile_append_dropWhile]
    · have hhead := List.head_dropWhile_not Text.isBlank hne
      simpa only [hrest, List.head_cons] using hhead
  · rintro ⟨blanks, c, rest, rfl, -, hc⟩
    simp [isFilled, hc]

section Divided

variable {blanks rest : Text} {c : Char}

theorem leading_append_cons (hblanks : ∀ b ∈ blanks, Text.isBlank b = true)
    (hc : Text.isBlank c = false) : leading (blanks ++ c :: rest) = blanks.length := by
  rw [leading, List.takeWhile_append_of_pos hblanks, List.takeWhile_cons_of_neg (by simp [hc]),
    List.append_nil]

theorem stripRight_append_cons (text : Text) (hc : Text.isBlank c = false) (rest : Text) :
    Text.stripRight (text ++ c :: rest) = text ++ c :: Text.stripRight rest := by
  induction text with
  | nil =>
    rw [List.nil_append, Text.stripRight, Text.dropEndWhile_cons, if_neg (by simp [hc])]
    rfl
  | cons d text ih =>
    rw [List.cons_append, Text.stripRight, Text.dropEndWhile_cons, if_neg (by simp [hc])]
    exact congrArg (d :: ·) ih

/-- A margin that is not too wide takes nothing but blanks off a line. -/
theorem outdent_append_cons {margin : Nat} (hmargin : margin ≤ blanks.length)
    (hc : Text.isBlank c = false) :
    outdent margin (blanks ++ c :: rest) = blanks.drop margin ++ c :: Text.stripRight rest := by
  rw [outdent, List.drop_append_of_le_length hmargin, stripRight_append_cons _ hc]

end Divided

/-- A line with something on it keeps its indentation less the margin. -/
theorem leading_outdent {margin : Nat} {line : Text} (h : isFilled line = true)
    (hmargin : margin ≤ leading line) :
    isFilled (outdent margin line) = true ∧
      leading (outdent margin line) + margin = leading line := by
  obtain ⟨blanks, c, rest, rfl, hblanks, hc⟩ := isFilled_iff.mp h
  rw [leading_append_cons hblanks hc] at hmargin ⊢
  have hdrop : ∀ b ∈ blanks.drop margin, Text.isBlank b = true :=
    fun b hb => hblanks b (List.mem_of_mem_drop hb)
  rw [outdent_append_cons hmargin hc, leading_append_cons hdrop hc, List.length_drop]
  exact ⟨isFilled_iff.mpr ⟨_, c, _, rfl, hdrop, hc⟩, Nat.sub_add_cancel hmargin⟩

/-- The margin of a line with something on it is blank. -/
theorem isBlank_of_mem_take {margin : Nat} {line : Text} (hmargin : margin ≤ leading line) :
    (line.take margin).length = margin ∧ ∀ c ∈ line.take margin, Text.isBlank c = true := by
  have hstart : line.take margin = (line.takeWhile Text.isBlank).take margin := by
    conv_lhs => rw [← List.takeWhile_append_dropWhile (p := Text.isBlank) (l := line)]
    rw [List.take_append_of_le_length hmargin]
  rw [hstart, List.length_take]
  exact ⟨Nat.min_eq_left hmargin, fun c hc => List.mem_takeWhile_imp (List.mem_of_mem_take hc)⟩

/-- Nothing is left of a blank line. -/
theorem outdent_of_blank {line : Text} (h : isFilled line = false) (margin : Nat) :
    outdent margin line = [] := by
  refine List.rdropWhile_eq_nil_iff.mpr fun c hc => ?_
  have hblank := List.any_eq_false.mp h c (List.mem_of_mem_drop hc)
  simpa using hblank

/-- Taking a margin off neither fills a line nor empties it. -/
theorem isFilled_outdent {margin : Nat} {line : Text}
    (h : isFilled line = true → margin ≤ leading line) :
    isFilled (outdent margin line) = isFilled line := by
  cases hfilled : isFilled line with
  | true => exact (leading_outdent hfilled (h hfilled)).1
  | false =>
    rw [outdent_of_blank hfilled]
    rfl

/-- To strip a line is to take a margin of its own off. -/
theorem strip_eq_outdent (line : Text) : Text.strip line = outdent (leading line) line := by
  have hparts : line.takeWhile Text.isBlank ++ Text.stripLeft line = line :=
    List.takeWhile_append_dropWhile
  have hdrop : (line.takeWhile Text.isBlank ++ Text.stripLeft line).drop (leading line) =
      Text.stripLeft line := List.drop_left
  rw [hparts] at hdrop
  rw [Text.strip, outdent, hdrop]

/-- A margin of lines. The lines with something on them begin with at least as many blanks, and if
there are such lines, one of them begins with no more. -/
structure IsMargin (lines : List Text) (margin : Nat) : Prop where
  /-- No line with something on it begins with fewer blanks. -/
  le : ∀ line ∈ lines, isFilled line = true → margin ≤ leading line
  /-- Some line with something on it begins with as many blanks. -/
  attained : (∃ line ∈ lines, isFilled line = true) →
    ∃ line ∈ lines, isFilled line = true ∧ leading line = margin

theorem indent?_eq (line : Text) :
    indent? line = if isFilled line then some (leading line) else none := by
  cases hfilled : isFilled line with
  | true =>
    obtain ⟨blanks, c, rest, rfl, hblanks, hc⟩ := isFilled_iff.mp hfilled
    have hstrip : Text.stripLeft (blanks ++ c :: rest) = c :: rest := by
      rw [Text.stripLeft, List.dropWhile_append_of_pos hblanks,
        List.dropWhile_cons_of_neg (by simp [hc])]
    rw [indent?, hstrip, leading_append_cons hblanks hc]
    simp
  | false =>
    have hstrip : Text.stripLeft line = [] := by
      refine List.dropWhile_eq_nil_iff.mpr fun c hc => ?_
      simpa using List.any_eq_false.mp hfilled c hc
    rw [indent?, hstrip]
    rfl

theorem mem_filterMap_indent? {lines : List Text} {n : Nat} :
    n ∈ lines.filterMap indent? ↔ ∃ line ∈ lines, isFilled line = true ∧ leading line = n := by
  simp only [List.mem_filterMap, indent?_eq, Option.ite_none_right_eq_some, Option.some.injEq]

theorem isMargin_of_margin? {lines : List Text} {margin : Nat} (h : margin? lines = some margin) :
    IsMargin lines margin := by
  obtain ⟨hmem, hle⟩ := List.min?_eq_some_iff.mp h
  refine ⟨fun line hline hfilled => ?_, fun _ => mem_filterMap_indent?.mp hmem⟩
  exact hle _ (mem_filterMap_indent?.mpr ⟨line, hline, hfilled, rfl⟩)

theorem not_isFilled_of_margin? {lines : List Text} (h : margin? lines = none) :
    ∀ line ∈ lines, isFilled line = false := by
  have hnil := List.min?_eq_none_iff.mp h
  intro line hline
  by_contra hfilled
  have hmem : leading line ∈ lines.filterMap indent? :=
    mem_filterMap_indent?.mpr ⟨line, hline, by simpa using hfilled, rfl⟩
  rw [hnil] at hmem
  cases hmem

/-- **What is left of the later lines.** They all lose the same margin. If there is nothing on any
of them they are not kept, but then there is nothing to lose. -/
theorem exists_margin (later : List Text) :
    ∃ margin, IsMargin later margin ∧ trimLater later <+: later.map (outdent margin) ∧
      (trimLater later).filter isFilled = (later.filter isFilled).map (outdent margin) := by
  rw [trimLater]
  cases hmargin : margin? later with
  | some margin =>
    have h := isMargin_of_margin? hmargin
    refine ⟨margin, h, List.prefix_rfl, ?_⟩
    change (later.map (outdent margin)).filter isFilled = _
    rw [List.filter_map]
    exact congrArg (List.map _) (List.filter_congr fun line hline =>
      isFilled_outdent (h.le line hline))
  | none =>
    have hblank := not_isFilled_of_margin? hmargin
    have hnone : later.filter isFilled = [] :=
      List.filter_eq_nil_iff.mpr fun line hline => by simp [hblank line hline]
    refine ⟨0, ⟨?_, ?_⟩, List.nil_prefix, ?_⟩
    · intro line hline hfilled
      exact Nat.zero_le _
    · rintro ⟨line, hline, hfilled⟩
      rw [hblank line hline] at hfilled
      cases hfilled
    · rw [hnone]
      rfl

/-! ### Empty lines at the two ends -/

theorem dropEmptyEnds_isInfix (lines : List Text) : dropEmptyEnds lines <:+: lines :=
  (List.dropWhile_suffix _).isInfix.trans (List.rdropWhile_prefix _ _).isInfix

theorem head?_dropEmptyEnds (lines : List Text) : (dropEmptyEnds lines).head? ≠ some [] := by
  intro h
  have hhead := List.head?_dropWhile_not List.isEmpty
    (lines.reverse.dropWhile List.isEmpty).reverse
  rw [dropEmptyEnds] at h
  rw [h] at hhead
  cases hhead

/-- Nothing that is dropped at the end of a list is left there. -/
theorem not_of_getLast?_rdropWhile {α : Type} {p : α → Bool} {items : List α} {last : α}
    (h : (items.rdropWhile p).getLast? = some last) : p last = false := by
  have hne : items.rdropWhile p ≠ [] := by
    intro hnil
    rw [hnil] at h
    cases h
  have hlast := List.rdropWhile_last_not p items hne
  rw [List.getLast?_eq_some_getLast hne] at h
  rw [Option.some.inj h] at hlast
  simpa using hlast

theorem getLast?_dropEmptyEnds (lines : List Text) : (dropEmptyEnds lines).getLast? ≠ some [] := by
  intro h
  have hlast : (lines.rdropWhile List.isEmpty).getLast? = some [] := by
    conv_lhs => rw [← List.takeWhile_append_dropWhile (p := List.isEmpty)
      (l := lines.rdropWhile List.isEmpty), List.getLast?_append]
    exact Option.or_eq_some_iff.mpr (.inl h)
  cases not_of_getLast?_rdropWhile hlast

theorem filter_dropWhile_isEmpty (lines : List Text) :
    (lines.dropWhile List.isEmpty).filter isFilled = lines.filter isFilled := by
  have hempty : (lines.takeWhile List.isEmpty).filter isFilled = [] := by
    refine List.filter_eq_nil_iff.mpr fun line hline => ?_
    rw [List.isEmpty_iff.mp (List.mem_takeWhile_imp hline)]
    exact Bool.false_ne_true
  conv_rhs => rw [← List.takeWhile_append_dropWhile (p := List.isEmpty) (l := lines),
    List.filter_append, hempty, List.nil_append]

/-- Lines with something on them are kept. -/
theorem filter_dropEmptyEnds (lines : List Text) :
    (dropEmptyEnds lines).filter isFilled = lines.filter isFilled := by
  rw [dropEmptyEnds, filter_dropWhile_isEmpty, List.filter_reverse, filter_dropWhile_isEmpty,
    List.filter_reverse, List.reverse_reverse]

/-! ### The description as a whole -/

/-- What is shown of a description that has a first line and later lines with a margin. -/
structure Shows (first : Text) (later : List Text) (margin : Nat) (shown : List Text) : Prop where
  /-- The lines are left in their places. -/
  isInfix : shown <:+: Text.strip first :: later.map (outdent margin)
  /-- No line with something on it is lost. -/
  filled : shown.filter isFilled = (if isFilled first then [Text.strip first] else []) ++
    (later.filter isFilled).map (outdent margin)
  /-- No line ends with a blank. -/
  ends : ∀ line ∈ shown, ∀ c, line.getLast? = some c → Text.isBlank c = false

theorem shows_dropEmptyEnds (first : Text) {later : List Text} {margin : Nat}
    (hplaces : trimLater later <+: later.map (outdent margin))
    (hfilled : (trimLater later).filter isFilled = (later.filter isFilled).map (outdent margin)) :
    Shows first later margin (dropEmptyEnds (Text.strip first :: trimLater later)) := by
  have hpart : dropEmptyEnds (Text.strip first :: trimLater later) <:+:
      Text.strip first :: later.map (outdent margin) :=
    (dropEmptyEnds_isInfix _).trans (List.cons_prefix_cons.mpr ⟨rfl, hplaces⟩).isInfix
  refine ⟨hpart, ?_, fun line hline c hc => ?_⟩
  · have hfirst : isFilled (Text.strip first) = isFilled first := by
      rw [strip_eq_outdent]
      exact isFilled_outdent fun _ => le_rfl
    rw [filter_dropEmptyEnds, List.filter_cons, hfirst, hfilled]
    split <;> rfl
  · -- every line has been stripped at its end
    rcases List.mem_cons.mp (hpart.subset hline) with rfl | hlater
    · exact not_of_getLast?_rdropWhile hc
    · obtain ⟨line, -, rfl⟩ := List.mem_map.mp hlater
      exact not_of_getLast?_rdropWhile hc

theorem newline_not_mem_outdent {margin : Nat} {text line : Text} (h : line ∈ Text.lines text) :
    '\n' ∉ outdent margin line := by
  intro hmem
  have hdrop : '\n' ∈ line.drop margin := (List.rdropWhile_prefix _ _).subset hmem
  have hbreak := Text.not_isLineBreak_of_mem_lines h '\n' (List.mem_of_mem_drop hdrop)
  cases hbreak

/-- Where nothing is shown there is an empty line in place of it. -/
theorem Shows.singleton_nil {first : Text} {later : List Text} {margin : Nat}
    (h : Shows first later margin []) : Shows first later margin [[]] := by
  have hfirst : isFilled first = false := by
    by_contra hfilled
    have hnone := h.filled
    rw [if_pos (by simpa using hfilled)] at hnone
    cases hnone
  have hstrip : Text.strip first = [] := by rw [strip_eq_outdent, outdent_of_blank hfirst]
  refine ⟨⟨[], later.map (outdent margin), by rw [hstrip]; rfl⟩, h.filled, ?_⟩
  intro line hline c hc
  rw [List.mem_singleton.mp hline] at hc
  cases hc

theorem newline_not_mem_trimLines {written line : Text} (h : line ∈ trimLines written) :
    '\n' ∉ line := by
  rw [trimLines] at h
  cases hlines : Text.lines (Text.expandTabs written) with
  | nil =>
    rw [hlines] at h
    cases h
  | cons first later =>
    rw [hlines] at h
    rcases List.mem_cons.mp ((dropEmptyEnds_isInfix _).subset h) with rfl | hlater
    · have hfirst : first ∈ Text.lines (Text.expandTabs written) := by
        rw [hlines]
        exact List.mem_cons_self
      rw [strip_eq_outdent]
      exact newline_not_mem_outdent hfirst
    · obtain ⟨margin, -, hplaces, -⟩ := exists_margin later
      obtain ⟨line, hline, rfl⟩ := List.mem_map.mp (hplaces.subset hlater)
      have hmem : line ∈ Text.lines (Text.expandTabs written) := by
        rw [hlines]
        exact List.mem_cons_of_mem first hline
      exact newline_not_mem_outdent hmem

/-- The lines of a description as it is shown. If nothing is left of it, there is one empty
line. -/
theorem pieces_trim (written : Text) :
    Text.pieces '\n' (trim written) =
      if trimLines written = [] then [[]] else trimLines written := by
  rw [trim]
  split
  next hnil =>
    rw [hnil]
    rfl
  next hne =>
    exact List.splitOn_intercalate '\n' (fun line hline => newline_not_mem_trimLines hline) hne

/-- **What is shown of a description.** Nothing is shown of none. Any other description has a first
line, and its later lines have a margin. What is shown neither begins nor ends with an empty line,
and no line of it ends with a blank. The lines with something on them are the first line, stripped,
and the later ones without the margin, which is blank in all of them. So these stay indented
relative to each other, and one of them is not indented at all. -/
theorem trim_shows (written : Text) :
    (written = [] ∧ trim written = []) ∨
    ∃ first later margin shown, Text.lines (Text.expandTabs written) = first :: later ∧
      Text.pieces '\n' (trim written) = shown ∧
      (trim written ≠ [] → shown.head? ≠ some [] ∧ shown.getLast? ≠ some []) ∧
      IsMargin later margin ∧ Shows first later margin shown ∧
      (∀ line ∈ later, isFilled line = true →
        (line.take margin).length = margin ∧ (∀ c ∈ line.take margin, Text.isBlank c = true) ∧
        leading (outdent margin line) + margin = leading line) ∧
      ((∃ line ∈ later, isFilled line = true) →
        ∃ line ∈ later, isFilled line = true ∧ leading (outdent margin line) = 0) := by
  rcases eq_or_ne written [] with rfl | hwritten
  · exact .inl ⟨rfl, rfl⟩
  obtain ⟨first, later, hlines⟩ := Text.exists_lines_expandTabs hwritten
  obtain ⟨margin, hmargin, hplaces, hfilled⟩ := exists_margin later
  have hshown : trimLines written = dropEmptyEnds (Text.strip first :: trimLater later) := by
    rw [trimLines, hlines]
  have hshows := shows_dropEmptyEnds first hplaces hfilled
  rw [← hshown] at hshows
  refine .inr ⟨first, later, margin, _, hlines, rfl, fun hne => ?_, hmargin, ?_, ?_,
    fun hexists => ?_⟩
  · have hlinesne : trimLines written ≠ [] := by
      intro hnil
      rw [trim, hnil] at hne
      exact hne rfl
    rw [pieces_trim, if_neg hlinesne, hshown]
    exact ⟨head?_dropEmptyEnds _, getLast?_dropEmptyEnds _⟩
  · rw [pieces_trim]
    split
    next hnil =>
      rw [hnil] at hshows
      exact hshows.singleton_nil
    next => exact hshows
  · intro line hline hline'
    have hle := hmargin.le line hline hline'
    obtain ⟨hlength, hblank⟩ := isBlank_of_mem_take hle
    exact ⟨hlength, hblank, (leading_outdent hline' hle).2⟩
  · obtain ⟨line, hline, hline', hleading⟩ := hmargin.attained hexists
    have hsum := (leading_outdent hline' hleading.ge).2
    exact ⟨line, hline, hline', by omega⟩

-- the tabs stand for sixteen and for eight spaces, of which eight are the margin
example : trim "  one \n\t\ttwo\n \n\tthree\n\n" = "one\n        two\n\nthree" := by
  decide +kernel

end Doc

end SuiteLint
