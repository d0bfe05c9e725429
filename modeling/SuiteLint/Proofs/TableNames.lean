import Mathlib.Tactic
import SuiteLint.Table

/-!
# The names of tables

Two lists of patterns decide what a table may be called. By one of them the beginning of its
name says of which kind the table is, and by the other one the whole name is known or not. The
patterns are matched letter by letter, with words that may or may not be there. Here they are
brought into a closed form: a text *begins like* a word, or *spells* it, without regard to
case (`Pattern.begins_settings_iff` and the lemmas after it, `Pattern.begins_tableName_iff`).

A word that may be missing is taken whenever it can be, and this is never given up again.
That does no harm, since no character is taken for two letters (`Pattern.eq_of_sameLetter`),
and each such word begins with another letter than what may follow it.

In this form the two lists can be compared. They differ in one noun
(`Pattern.isTableName_and_unlike_iff`).
-/

namespace SuiteLint

namespace Pattern

/-! ### Words without regard to case -/

/-- A text is spelled like a word of a pattern, without regard to case. -/
def Spells (letters text : Text) : Prop :=
  List.Forall₂ (fun a c => sameLetter true a c = true) letters text

instance (letters text : Text) : Decidable (Spells letters text) :=
  inferInstanceAs (Decidable (List.Forall₂ _ letters text))

/-- A text begins like a word of a pattern, without regard to case. -/
def BeginsLike (letters text : Text) : Prop :=
  ∃ m rest, text = m ++ rest ∧ Spells letters m

theorem word_eq_some_iff {letters text m rest : Text} :
    word true letters text = some (m, rest) ↔ text = m ++ rest ∧ Spells letters m := by
  induction letters generalizing text m rest with
  | nil =>
    have hnil : Spells [] m ↔ m = [] := List.forall₂_nil_left_iff
    rw [word, Option.some.injEq, Prod.mk.injEq, hnil]
    constructor
    · rintro ⟨rfl, rfl⟩
      exact ⟨rfl, rfl⟩
    · rintro ⟨rfl, rfl⟩
      exact ⟨rfl, rfl⟩
  | cons a letters ih =>
    cases text with
    | nil =>
      refine ⟨nofun, fun ⟨htext, hspells⟩ => ?_⟩
      obtain ⟨rfl, -⟩ := List.append_eq_nil_iff.mp htext.symm
      cases hspells
    | cons c text =>
      have hcons : Spells (a :: letters) m ↔
          ∃ d n, sameLetter true a d = true ∧ Spells letters n ∧ m = d :: n :=
        List.forall₂_cons_left_iff
      rw [word, hcons]
      by_cases hletter : sameLetter true a c = true
      · rw [if_pos hletter, Option.map_eq_some_iff]
        constructor
        · rintro ⟨⟨n, rest'⟩, hword, heq⟩
          obtain ⟨rfl, rfl⟩ := Prod.mk.inj heq
          obtain ⟨rfl, hspells⟩ := ih.mp hword
          exact ⟨rfl, c, n, hletter, hspells, rfl⟩
        · rintro ⟨htext, d, n, -, hspells, rfl⟩
          obtain ⟨rfl, rfl⟩ := List.cons.inj htext
          exact ⟨(n, rest), ih.mpr ⟨rfl, hspells⟩, rfl⟩
      · rw [if_neg hletter]
        refine ⟨nofun, ?_⟩
        rintro ⟨htext, d, n, hd, -, rfl⟩
        obtain ⟨rfl, -⟩ := List.cons.inj htext
        exact absurd hd hletter

theorem word_eq_none_iff {letters text : Text} :
    word true letters text = none ↔ ¬BeginsLike letters text := by
  rw [Option.eq_none_iff_forall_ne_some]
  constructor
  · rintro h ⟨m, rest, hword⟩
    exact h (m, rest) (word_eq_some_iff.mpr hword)
  · rintro h ⟨m, rest⟩ hword
    exact h ⟨m, rest, word_eq_some_iff.mp hword⟩

theorem word_of_spells {letters m : Text} (h : Spells letters m) (rest : Text) :
    word true letters (m ++ rest) = some (m, rest) := word_eq_some_iff.mpr ⟨rfl, h⟩

theorem Spells.beginsLike {letters text : Text} (h : Spells letters text) :
    BeginsLike letters text := ⟨text, [], (List.append_nil text).symm, h⟩

theorem not_beginsLike_nil {letters : Text} (h : letters ≠ []) : ¬BeginsLike letters [] := by
  rintro ⟨m, rest, htext, hspells⟩
  obtain ⟨rfl, -⟩ := List.append_eq_nil_iff.mp htext.symm
  cases hspells
  exact h rfl

theorem spells_append_iff {letters more text : Text} :
    Spells (letters ++ more) text ↔
      ∃ m rest, text = m ++ rest ∧ Spells letters m ∧ Spells more rest := by
  constructor
  · intro h
    have htake := List.forall₂_take letters.length h
    have hdrop := List.forall₂_drop letters.length h
    rw [List.take_left] at htake
    rw [List.drop_left] at hdrop
    exact ⟨_, _, (List.take_append_drop _ _).symm, htake, hdrop⟩
  · rintro ⟨m, rest, rfl, hm, hrest⟩
    exact List.rel_append hm hrest

theorem BeginsLike.of_append {letters more text : Text} (h : BeginsLike (letters ++ more) text) :
    BeginsLike letters text := by
  obtain ⟨m, rest, rfl, hm⟩ := h
  obtain ⟨m, n, rfl, hm, -⟩ := spells_append_iff.mp hm
  exact ⟨m, n ++ rest, List.append_assoc .., hm⟩

/-- A word that was recognised leaves the rest of the pattern to the rest of the text. -/
theorem spells_append_of_spells {letters more m rest : Text} (h : Spells letters m) :
    Spells (letters ++ more) (m ++ rest) ↔ Spells more rest := by
  refine ⟨fun happend => ?_, fun hmore => List.rel_append h hmore⟩
  obtain ⟨n, rest', heq, hn, hrest⟩ := spells_append_iff.mp happend
  obtain ⟨rfl, rfl⟩ := List.append_inj heq (h.length_eq.symm.trans hn.length_eq)
  exact hrest

theorem beginsLike_append_of_spells {letters more m rest : Text} (h : Spells letters m) :
    BeginsLike (letters ++ more) (m ++ rest) ↔ BeginsLike more rest := by
  constructor
  · rintro ⟨n, rest', heq, hn⟩
    obtain ⟨n, k, rfl, hn, hk⟩ := spells_append_iff.mp hn
    rw [List.append_assoc] at heq
    obtain ⟨rfl, rfl⟩ := List.append_inj heq (h.length_eq.symm.trans hn.length_eq)
    exact ⟨k, rest', rfl, hk⟩
  · rintro ⟨k, rest', rfl, hk⟩
    exact ⟨m ++ k, rest', (List.append_assoc ..).symm, List.rel_append h hk⟩

/-! ### Words that cannot both begin a text -/

/-- Whether a character is a space or a small letter, as those of the patterns are. -/
def isPlain (a : Char) : Bool := a = ' ' || (97 ≤ a.toNat && a.toNat ≤ 122)

/-- Whether two words differ in their first letters. -/
def differ : Text → Text → Bool
  | a :: _, b :: _ => isPlain a && isPlain b && a ≠ b
  | _, _ => false

/-- No character is taken for two letters. -/
theorem eq_of_sameLetter {a b c : Char} (ha : isPlain a = true) (hb : isPlain b = true)
    (hac : sameLetter true a c = true) (hbc : sameLetter true b c = true) : a = b := by
  have hspace : (' ' : Char).toNat = 32 := rfl
  simp only [isPlain, sameLetter, Bool.or_eq_true, Bool.and_eq_true, beq_iff_eq,
    decide_eq_true_eq, ← Char.toNat_inj, true_and] at ha hb hac hbc ⊢
  omega

theorem not_beginsLike_of_differ {letters others text : Text} (h : differ letters others = true)
    (hletters : BeginsLike letters text) : ¬BeginsLike others text := by
  rintro ⟨n, rest', htext, hothers⟩
  obtain ⟨m, rest, rfl, hletters⟩ := hletters
  unfold differ at h
  split at h
  next a letters b others =>
    simp only [Bool.and_eq_true, decide_eq_true_eq] at h
    obtain ⟨⟨ha, hb⟩, hne⟩ := h
    cases hletters with
    | cons hac _ =>
      cases hothers with
      | cons hbc _ =>
        obtain ⟨rfl, -⟩ := List.cons.inj htext
        exact hne (eq_of_sameLetter ha hb hac hbc)
  next => cases h

/-! ### Nouns -/

/-- A text is a noun, in the singular or in the plural. -/
def IsNoun (letters text : Text) : Prop := Spells letters text ∨ Spells (letters ++ "s") text

instance (letters text : Text) : Decidable (IsNoun letters text) :=
  inferInstanceAs (Decidable (_ ∨ _))

theorem IsNoun.beginsLike {letters text : Text} (h : IsNoun letters text) :
    BeginsLike letters text :=
  h.elim Spells.beginsLike fun hplural => hplural.beginsLike.of_append

theorem isNoun_append_of_spells {letters more m rest : Text} (h : Spells letters m) :
    IsNoun (letters ++ more) (m ++ rest) ↔ IsNoun more rest := by
  rw [IsNoun, IsNoun, List.append_assoc, spells_append_of_spells h, spells_append_of_spells h]

theorem optionally_of_spells {letters m : Text} (h : Spells letters m) (rest : Text) :
    optionally true letters (m ++ rest) = (some m, rest) := by
  rw [optionally, word_of_spells h]

theorem optionally_of_not_beginsLike {letters text : Text} (h : ¬BeginsLike letters text) :
    optionally true letters text = (none, text) := by
  rw [optionally, word_eq_none_iff.mpr h]

theorem word_isSome_iff {letters text : Text} :
    (word true letters text).isSome = true ↔ BeginsLike letters text := by
  rw [← not_iff_not, ← word_eq_none_iff, Option.not_isSome_iff_eq_none]

/-- A text begins with a noun if it begins with its singular. -/
theorem noun_isSome_iff {letters text : Text} :
    (noun true letters text).isSome = true ↔ BeginsLike letters text := by
  rw [noun, Option.isSome_map, word_isSome_iff]

theorem eq_append_of_noun {letters text m rest : Text}
    (h : noun true letters text = some (m, rest)) : text = m ++ rest := by
  obtain ⟨⟨n, rest'⟩, hword, heq⟩ := Option.map_eq_some_iff.mp h
  obtain ⟨rfl, -⟩ := word_eq_some_iff.mp hword
  by_cases hplural : BeginsLike "s" rest'
  · obtain ⟨s, rest', rfl, hs⟩ := hplural
    simp only [optionally_of_spells hs] at heq
    obtain ⟨rfl, rfl⟩ := Prod.mk.inj heq
    exact (List.append_assoc ..).symm
  · simp only [optionally_of_not_beginsLike hplural] at heq
    obtain ⟨rfl, rfl⟩ := Prod.mk.inj heq
    rfl

/-- When nothing is left of a text after a noun. -/
theorem noun_eq_some_nil_iff {letters text : Text} :
    (∃ m, noun true letters text = some (m, [])) ↔ IsNoun letters text := by
  constructor
  · rintro ⟨m, hnoun⟩
    obtain ⟨⟨n, rest⟩, hword, heq⟩ := Option.map_eq_some_iff.mp hnoun
    obtain ⟨rfl, hspells⟩ := word_eq_some_iff.mp hword
    by_cases hplural : BeginsLike "s" rest
    · obtain ⟨s, rest, rfl, hs⟩ := hplural
      simp only [optionally_of_spells hs] at heq
      obtain ⟨-, rfl⟩ := Prod.mk.inj heq
      rw [List.append_nil]
      exact .inr (List.rel_append hspells hs)
    · simp only [optionally_of_not_beginsLike hplural] at heq
      obtain ⟨-, rfl⟩ := Prod.mk.inj heq
      rw [List.append_nil]
      exact .inl hspells
  · rintro (h | h)
    · have hword := word_of_spells h []
      have hnone : optionally true "s" [] = (none, []) :=
        optionally_of_not_beginsLike (not_beginsLike_nil (by decide))
      rw [List.append_nil] at hword
      refine ⟨text, ?_⟩
      simp only [noun, hword, Option.map_some, hnone]
    · obtain ⟨m, s, rfl, hm, hs⟩ := spells_append_iff.mp h
      have hsome := optionally_of_spells hs []
      rw [List.append_nil] at hsome
      refine ⟨m ++ s, ?_⟩
      simp only [noun, word_of_spells hm, Option.map_some, hsome]

section After

variable {before letters text : Text}

theorem nounAfter_of_spells {m : Text} (h : Spells before m) (letters rest : Text) :
    nounAfter true before letters (m ++ rest) =
      (noun true letters rest).map fun (n, rest) => (m ++ n, some m, rest) := by
  simp only [nounAfter, optionally_of_spells h, Option.getD_some]

theorem nounAfter_of_not_beginsLike (h : ¬BeginsLike before text) (letters : Text) :
    nounAfter true before letters text =
      (noun true letters text).map fun (n, rest) => (n, none, rest) := by
  simp only [nounAfter, optionally_of_not_beginsLike h, Option.getD_none, List.nil_append]

/-- A text begins with a noun, with or without another word before it. The other word must
differ from the noun, which would not be recognised if its beginning were taken for it. -/
theorem nounAfter_isSome_iff (h : differ before letters = true) :
    (nounAfter true before letters text).isSome = true ↔
      BeginsLike letters text ∨ BeginsLike (before ++ letters) text := by
  by_cases hbefore : BeginsLike before text
  · have hnot := not_beginsLike_of_differ h hbefore
    obtain ⟨m, rest, rfl, hm⟩ := hbefore
    rw [nounAfter_of_spells hm, Option.isSome_map, noun_isSome_iff,
      beginsLike_append_of_spells hm, or_iff_right hnot]
  · have hnot : ¬BeginsLike (before ++ letters) text := fun hboth => hbefore hboth.of_append
    rw [nounAfter_of_not_beginsLike hbefore, Option.isSome_map, noun_isSome_iff,
      or_iff_left hnot]

theorem eq_append_of_nounAfter {m rest : Text} {lead : Option Text}
    (h : nounAfter true before letters text = some (m, lead, rest)) : text = m ++ rest := by
  by_cases hbefore : BeginsLike before text
  · obtain ⟨n, text, rfl, hn⟩ := hbefore
    rw [nounAfter_of_spells hn] at h
    obtain ⟨⟨k, rest'⟩, hnoun, heq⟩ := Option.map_eq_some_iff.mp h
    obtain ⟨rfl, hrest⟩ := Prod.mk.inj heq
    obtain ⟨-, rfl⟩ := Prod.mk.inj hrest
    rw [eq_append_of_noun hnoun, List.append_assoc]
  · rw [nounAfter_of_not_beginsLike hbefore] at h
    obtain ⟨⟨k, rest'⟩, hnoun, heq⟩ := Option.map_eq_some_iff.mp h
    obtain ⟨rfl, hrest⟩ := Prod.mk.inj heq
    obtain ⟨-, rfl⟩ := Prod.mk.inj hrest
    exact eq_append_of_noun hnoun

/-- When nothing is left of a text after a noun, with or without another word before it. -/
theorem nounAfter_eq_some_nil_iff (h : differ before letters = true) :
    (∃ m lead, nounAfter true before letters text = some (m, lead, [])) ↔
      IsNoun letters text ∨ IsNoun (before ++ letters) text := by
  by_cases hbefore : BeginsLike before text
  · have hnot : ¬IsNoun letters text :=
      fun hnoun => not_beginsLike_of_differ h hbefore hnoun.beginsLike
    obtain ⟨m, rest, rfl, hm⟩ := hbefore
    rw [or_iff_right hnot, isNoun_append_of_spells hm, ← noun_eq_some_nil_iff,
      nounAfter_of_spells hm]
    simp [Option.map_eq_some_iff]
  · have hnot : ¬IsNoun (before ++ letters) text :=
      fun hnoun => hbefore hnoun.beginsLike.of_append
    rw [or_iff_left hnot, ← noun_eq_some_nil_iff, nounAfter_of_not_beginsLike hbefore]
    simp [Option.map_eq_some_iff]

end After

/-! ### The names of tables -/

theorem begins_settings_iff {name : Text} :
    settings.begins name = true ↔ BeginsLike "setting" name ∨ BeginsLike "metadata" name := by
  rw [begins, match?, Option.isSome_map, Option.orElse_eq_orElse, Option.orElse_eq_or,
    Option.isSome_or, Bool.or_eq_true, noun_isSome_iff, word_isSome_iff]

theorem begins_globals_iff {name : Text} :
    globals.begins name = true ↔ BeginsLike "variable" name := by
  rw [begins, match?, Option.isSome_map, noun_isSome_iff]

theorem begins_keywords_iff {name : Text} :
    keywords.begins name = true ↔ BeginsLike "keyword" name ∨ BeginsLike "user keyword" name := by
  have hwords : ("user " : Text) ++ ("keyword" : Text) = "user keyword" := rfl
  rw [begins, match?, Option.isSome_map, nounAfter_isSome_iff (by decide), hwords]

theorem begins_testCases_iff {name : Text} :
    testCases.begins name = true ↔ BeginsLike "testcase" name ∨ BeginsLike "test case" name := by
  have hjoined : ("testcase" : Text) = "test" ++ ("case" : Text) := rfl
  have hspaced : ("test case" : Text) = "test" ++ ((" " : Text) ++ ("case" : Text)) := rfl
  rw [begins, match?, hjoined, hspaced]
  by_cases htest : BeginsLike "test" name
  · obtain ⟨m, rest, rfl, hm⟩ := htest
    have hrest : (nounAfter true " " "case" rest).isSome = true ↔
        BeginsLike "case" rest ∨ BeginsLike ((" " : Text) ++ ("case" : Text)) rest :=
      nounAfter_isSome_iff (by decide)
    rw [nounAfter, Option.isSome_map] at hrest
    rw [beginsLike_append_of_spells hm, beginsLike_append_of_spells hm, word_of_spells hm, ← hrest]
    exact Bool.eq_iff_iff.mp Option.isSome_map
  · have hnot (more : Text) : ¬BeginsLike ("test" ++ more) name :=
      fun hboth => htest hboth.of_append
    rw [word_eq_none_iff.mpr htest]
    exact iff_of_false Bool.false_ne_true (not_or.mpr ⟨hnot _, hnot _⟩)

/-- The words that tables of known kinds have names like. -/
def kindWords : List Text :=
  ["setting", "metadata", "variable", "testcase", "test case", "keyword", "user keyword"]

/-- Without newlines, only the end of a text is at its end. -/
theorem atEnd_append_iff {m rest : Text} (h : '\n' ∉ m ++ rest) :
    atEnd rest = true ↔ rest = [] := by
  have hrest : '\n' ∉ rest := fun hmem => h (List.mem_append_right m hmem)
  unfold atEnd
  split
  · simp
  · exact absurd List.mem_cons_self hrest
  next hnil _ => simpa using hnil

/-- A text is a name that a table can have. -/
def IsTableName (name : Text) : Prop :=
  IsNoun "setting" name ∨ Spells "metadata" name ∨
    (IsNoun "case" name ∨ IsNoun "test case" name) ∨
    (IsNoun "keyword" name ∨ IsNoun "user keyword" name) ∨ IsNoun "variable" name

/-- A name without newlines is matched to its end if the match leaves nothing of it. -/
theorem isSome_plain_iff {name : Text} (h : '\n' ∉ name) {found : Option (Text × Text)}
    (hfound : ∀ m rest, found = some (m, rest) → name = m ++ rest) (place : Text → Match) :
    (match found with
      | some (m, rest) => if atEnd rest then some (place m) else none
      | none => none).isSome = true ↔ ∃ m, found = some (m, []) := by
  rcases found with _ | ⟨m, rest⟩
  · simp
  · simp only [atEnd_append_iff (hfound m rest rfl ▸ h)]
    by_cases hrest : rest = [] <;> simp [hrest]

@[inherit_doc isSome_plain_iff]
theorem isSome_after_iff {name : Text} (h : '\n' ∉ name)
    {found : Option (Text × Option Text × Text)}
    (hfound : ∀ m lead rest, found = some (m, lead, rest) → name = m ++ rest)
    (place : Text → Option Text → Match) :
    (match found with
      | some (m, lead, rest) => if atEnd rest then some (place m lead) else none
      | none => none).isSome = true ↔ ∃ m lead, found = some (m, lead, []) := by
  rcases found with _ | ⟨m, lead, rest⟩
  · simp
  · simp only [atEnd_append_iff (hfound m lead rest rfl ▸ h)]
    by_cases hrest : rest = [] <;> simp [hrest]

theorem word_eq_some_nil_iff {letters text : Text} :
    (∃ m, word true letters text = some (m, [])) ↔ Spells letters text := by
  simp only [word_eq_some_iff, List.append_nil, exists_eq_left']

/-- What the pattern of table names matches, in full. -/
theorem begins_tableName_iff {name : Text} (h : '\n' ∉ name) :
    tableName.begins name = true ↔ IsTableName name := by
  have hnoun (letters : Text) := isSome_plain_iff h
    (fun m rest (hfound : noun true letters name = some (m, rest)) => eq_append_of_noun hfound)
    fun m => ⟨m, [some m, none, none]⟩
  have hword (letters : Text) := isSome_plain_iff h
    (fun m rest (hfound : word true letters name = some (m, rest)) =>
      (word_eq_some_iff.mp hfound).1)
    fun m => ⟨m, [some m, none, none]⟩
  have hafter (before letters : Text) (place : Option Text → List (Option Text)) :=
    isSome_after_iff h
      (fun m lead rest (hfound : nounAfter true before letters name = some (m, lead, rest)) =>
        eq_append_of_nounAfter hfound)
      fun m lead => ⟨m, some m :: place lead⟩
  rw [begins, match?]
  simp only [tableName?, Option.orElse_eq_orElse, Option.orElse_eq_or, Option.isSome_or,
    Bool.or_eq_true]
  -- one case for each alternative of the pattern
  refine or_congr ((hnoun _).trans noun_eq_some_nil_iff) ?_
  refine or_congr ((hword _).trans word_eq_some_nil_iff) ?_
  refine or_congr ((hafter _ _ _).trans (nounAfter_eq_some_nil_iff (by decide))) ?_
  refine or_congr ((hafter _ _ _).trans (nounAfter_eq_some_nil_iff (by decide))) ?_
  exact (hnoun _).trans noun_eq_some_nil_iff

/-- **The two lists of names differ in one noun**: a name that tables can have, and that is like
that of no known kind of tables, is that of cases. -/
theorem isTableName_and_unlike_iff {name : Text} :
    (IsTableName name ∧ ∀ word ∈ kindWords, ¬BeginsLike word name) ↔ IsNoun "case" name := by
  constructor
  · rintro ⟨hname, hunlike⟩
    have hnoun {word : Text} (hword : word ∈ kindWords) : ¬IsNoun word name :=
      fun hnoun => hunlike word hword hnoun.beginsLike
    rcases hname with hname | hname | (hname | hname) | (hname | hname) | hname
    · exact absurd hname (hnoun (by decide))
    · exact absurd hname.beginsLike (hunlike "metadata" (by decide))
    · exact hname
    · exact absurd hname (hnoun (by decide))
    · exact absurd hname (hnoun (by decide))
    · exact absurd hname (hnoun (by decide))
    · exact absurd hname (hnoun (by decide))
  · intro hcase
    have hdiffer : ∀ word ∈ kindWords, differ "case" word = true := by decide
    exact ⟨.inr (.inr (.inl (.inl hcase))), fun word hword =>
      not_beginsLike_of_differ (hdiffer word hword) hcase.beginsLike⟩

end Pattern

/-- A table is of no known kind if its name is like that of none. -/
theorem TableKind.ofName_eq_unknown_iff {name : Text} :
    ofName (some name) = .unknown ↔
      ∀ word ∈ Pattern.kindWords, ¬Pattern.BeginsLike word name := by
  have hnone : ofName (some name) = .unknown ↔ ¬Pattern.settings.begins name = true ∧
      ¬Pattern.globals.begins name = true ∧ ¬Pattern.testCases.begins name = true ∧
      ¬Pattern.keywords.begins name = true := by
    rw [ofName]
    split_ifs <;> simp [*]
  rw [hnone, Pattern.begins_settings_iff, Pattern.begins_globals_iff,
    Pattern.begins_testCases_iff, Pattern.begins_keywords_iff]
  simp only [Pattern.kindWords, List.forall_mem_cons, List.not_mem_nil, false_imp_iff,
    implies_true, and_true, not_or, and_assoc]

end SuiteLint
