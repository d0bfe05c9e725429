import Mathlib.Data.List.DropRight
import Mathlib.Tactic
import SuiteLint.Proofs.Decoding
import SuiteLint.Proofs.RuleListing

/-!
# Describing rules by their names

Rules are described by name, and the names are looked at twice. First each of them has to be that
of a rule, letter case aside, and nothing is shown if one is not. Then the rules are gone through
in the order of their names, and those that were asked for are shown. The second time the blanks
at the ends of a name are left out, which might let names through to rules that the first time did
not. It does not: no rule has blanks in its name, and letter case has nothing to do with blanks, so
a name with blanks is that of no rule (`Text.strip_of_sameFolded`).

So it is the set of names that counts, letter case aside, and neither their order nor how often
they are given (`Session.describeRules_by_names`).
-/

namespace SuiteLint

open SuiteLint.Action

namespace Text

/-! ### The order of texts -/

/-- A text comes before another one in the order by code points. -/
def Before (a b : Text) : Prop := List.Lex (fun c d : Char => c.toNat < d.toNat) a b

theorem le_iff {a b : Text} : le a b = true ↔ a = b ∨ Before a b := by
  induction a generalizing b with
  | nil =>
    cases b with
    | nil => simp [le]
    | cons d b => exact iff_of_true rfl (.inr .nil)
  | cons c a ih =>
    cases b with
    | nil => exact iff_of_false Bool.false_ne_true (by simp [Before])
    | cons d b =>
      have hbefore : Before (c :: a) (d :: b) ↔ c.toNat < d.toNat ∨ c = d ∧ Before a b :=
        List.cons_lex_cons_iff
      rw [le, Bool.or_eq_true, Bool.and_eq_true, decide_eq_true_iff, beq_iff_eq, ih, hbefore,
        List.cons.injEq]
      tauto

theorem Before.trans {a b c : Text} (hab : Before a b) (hbc : Before b c) : Before a c :=
  List.lex_trans Nat.lt_trans hab hbc

theorem Before.irrefl (a : Text) : ¬Before a a :=
  List.lex_irrefl (fun c : Char => Nat.lt_irrefl c.toNat) a

theorem le_trans {a b c : Text} (hab : le a b = true) (hbc : le b c = true) : le a c = true := by
  rw [le_iff] at hab hbc ⊢
  rcases hab with rfl | hab
  · exact hbc
  · rcases hbc with rfl | hbc
    · exact .inr hab
    · exact .inr (hab.trans hbc)

theorem le_total (a b : Text) : (le a b || le b a) = true := by
  induction a generalizing b with
  | nil => rfl
  | cons c a ih =>
    cases b with
    | nil => rfl
    | cons d b =>
      rcases Nat.lt_trichotomy c.toNat d.toNat with hlt | heq | hgt
      · simp [le, hlt]
      · obtain rfl : c = d := Char.toNat_inj.mp heq
        simpa [le] using ih b
      · simp [le, hgt]

/-! ### Blanks in names -/

/-- The code points of blanks. -/
def blankCodes : List Nat :=
  List.range' 9 5 ++ List.range' 28 5 ++
    [0x85, 0xA0, 0x1680, 0x2028, 0x2029, 0x202F, 0x205F, 0x3000] ++ List.range' 0x2000 11

theorem mem_blankCodes {c : Char} (h : isBlank c = true) : c.toNat ∈ blankCodes := by
  simp only [isBlank, Bool.or_eq_true, Bool.and_eq_true, decide_eq_true_eq, beq_iff_eq] at h
  simp only [blankCodes, List.mem_append, List.mem_cons, List.not_mem_nil, List.mem_range'_1]
  omega

/-- A blank has no other small form. -/
theorem lowerChar_of_isBlank {c : Char} (h : isBlank c = true) (before after : Text) :
    lowerChar before c after = [c] := by
  have hcodes : ∀ n ∈ blankCodes, ¬(65 ≤ n ∧ n ≤ 90) ∧ n ≠ sigma.toNat ∧ n ≠ 0x130 ∧
      (loweringRuns.find? fun run => run.1.has n).isNone = true := by decide +kernel
  obtain ⟨hletter, hsigma, hdotted, hruns⟩ := hcodes _ (mem_blankCodes h)
  have hne : c ≠ sigma := fun heq => hsigma (congrArg Char.toNat heq)
  rw [lowerChar, if_neg hletter, if_neg hne, if_neg hdotted, Option.isNone_iff_eq_none.mp hruns]
  exact ite_self [c]

/-- And no other character has a blank in its small form. -/
theorem eq_of_mem_lowerChar {c d : Char} (hd : isBlank d = true) {before after : Text}
    (h : d ∈ lowerChar before c after) : d = c := by
  have hcodes : ∀ n ∈ blankCodes, ¬(97 ≤ n ∧ n ≤ 122) ∧ n ≠ 0x3C2 ∧ n ≠ 0x3C3 ∧ n ≠ 0x307 ∧
      n ≠ 0 ∧ ∀ run ∈ loweringRuns, run.1.has ((n : Int) - run.2).toNat = false := by
    decide +kernel
  obtain ⟨hsmall, hfinal, hmiddle, hdot, hzero, hruns⟩ := hcodes _ (mem_blankCodes hd)
  have hofNat {n : Nat} (hn : d = Char.ofNat n) : n = d.toNat :=
    Utf8.eq_toNat_of_ofNat hzero hn.symm
  unfold lowerChar at h
  simp only at h
  split at h
  · rw [List.mem_singleton] at h
    split at h
    · have := hofNat h
      omega
    · exact h
  · split at h
    · have := hofNat (List.mem_singleton.mp h)
      split at this <;> omega
    · split at h
      · rcases List.mem_pair.mp h with rfl | hcombining
        · exact absurd hd (by decide)
        · exact absurd (hofNat hcombining).symm hdot
      · split at h
        next run distance hrun =>
          -- the character that would become the blank is in none of the runs
          have hmem := List.mem_of_find?_eq_some hrun
          have hhas := List.find?_some hrun
          have hcode := hofNat (List.mem_singleton.mp h)
          have hfrom : ((d.toNat : Int) - distance).toNat = c.toNat := by omega
          have hnot := hruns _ hmem
          rw [hfrom] at hnot
          rw [hnot] at hhas
          cases hhas
        next => exact List.mem_singleton.mp h

/-- **Lowering a text leaves the blanks in it alone.** -/
theorem mem_lower_of_isBlank {c : Char} (hc : isBlank c = true) {text : Text} :
    c ∈ lower text ↔ c ∈ text := by
  suffices hafter : ∀ before, c ∈ lowerAfter before text ↔ c ∈ text from hafter []
  induction text with
  | nil => exact fun _ => Iff.rfl
  | cons d rest ih =>
    intro before
    rw [lowerAfter, List.mem_append, List.mem_cons, ih]
    refine or_congr_left ⟨eq_of_mem_lowerChar hc, ?_⟩
    rintro rfl
    rw [lowerChar_of_isBlank hc]
    exact List.mem_singleton_self c

theorem strip_eq_self {text : Text} (h : ∀ c ∈ text, ¬isBlank c = true) : strip text = text := by
  have hleft : stripLeft text = text := by
    cases text with
    | nil => rfl
    | cons c rest => exact List.dropWhile_cons_of_neg (h c List.mem_cons_self)
  rw [strip, hleft]
  exact List.rdropWhile_eq_self_iff.mpr fun hne => h _ (List.getLast_mem hne)

/-- A text that agrees with one without blanks, letter case aside, has none either. -/
theorem strip_of_sameFolded {text name : Text} (h : sameFolded text name = true)
    (hname : ∀ c ∈ name, isBlank c = false) : strip text = text := by
  have hlower : lower text = lower name := beq_iff_eq.mp h
  refine strip_eq_self fun c hc hblank => ?_
  rw [← mem_lower_of_isBlank hblank, hlower, mem_lower_of_isBlank hblank] at hc
  rw [hname c hc] at hblank
  cases hblank

end Text

/-! ### The rules that are asked for -/

namespace Registry

variable {rules : Registry}

/-- Whether a rule is asked for by some names: by its own, letter case aside, or by none at all. -/
def asks (names : List Text) (rule : Rule) : Bool :=
  names.isEmpty || names.any fun name => Text.sameFolded name rule.name

/-- The rules that are asked for by names, each of them once and in the order of their names. -/
structure Selects (rules : Registry) (names : List Text) (shown : List Rule) : Prop where
  /-- They are those whose name is given, letter case aside, or all if no name is given. -/
  mem_iff : ∀ rule, rule ∈ shown ↔ rule ∈ rules.all ∧
    (names = [] ∨ ∃ name ∈ names, Text.sameFolded name rule.name = true)
  /-- Each one comes before those with later names. -/
  increasing : shown.Pairwise fun a b => Text.Before a.name b.name

/-- The rules and the names leave nothing open. -/
theorem Selects.eq {names : List Text} {shown shown' : List Rule} (h : rules.Selects names shown)
    (h' : rules.Selects names shown') : shown = shown' := by
  have hnodup {shown : List Rule} (h : rules.Selects names shown) : shown.Nodup := by
    refine h.increasing.imp fun {a b} hbefore heq => ?_
    rw [heq] at hbefore
    exact Text.Before.irrefl _ hbefore
  have hperm : shown.Perm shown' := by
    refine (List.perm_ext_iff_of_nodup (hnodup h) (hnodup h')).mpr fun rule => ?_
    rw [h.mem_iff, h'.mem_iff]
  refine hperm.eq_of_pairwise ?_ h.increasing h'.increasing
  intro a b _ _ hab hba
  exact absurd (hab.trans hba) (Text.Before.irrefl _)

theorem mem_byName {rule : Rule} : rule ∈ rules.byName ↔ rule ∈ rules.all :=
  (List.mergeSort_perm _ _).mem_iff

/-- **The rules stand in the order of their names**, and strictly so if the names are distinct. -/
theorem byName_increasing
    (h : rules.all.Pairwise fun a b => ¬Text.sameFolded a.name b.name = true) :
    rules.byName.Pairwise fun a b => Text.Before a.name b.name := by
  have hsorted : rules.byName.Pairwise fun a b => Text.le a.name b.name = true := by
    refine List.pairwise_mergeSort ?_ ?_ rules.all
    · intro a b c hab hbc
      exact Text.le_trans hab hbc
    · intro a b
      exact Text.le_total a.name b.name
  have hdistinct : rules.byName.Pairwise fun a b => a.name ≠ b.name := by
    have hsymm {a b : Rule} (hne : a.name ≠ b.name) : b.name ≠ a.name := hne.symm
    refine ((List.mergeSort_perm _ _).pairwise_iff hsymm).mpr (h.imp fun {a b} hne heq => hne ?_)
    rw [heq]
    exact beq_self_eq_true _
  exact hsorted.imp₂ (fun a b hle hne => (Text.le_iff.mp hle).resolve_left hne) hdistinct

/-- Rules of distinct names leave nothing to choose. -/
theorem coherent_of_distinct
    (h : rules.all.Pairwise fun a b => ¬Text.sameFolded a.name b.name = true) :
    rules.Coherent := by
  refine coherent_of_nodup (((all_perm rules).map Rule.folded).nodup_iff.mp ?_)
  exact List.pairwise_map.mpr (h.imp fun {a b} hne heq => hne (beq_iff_eq.mpr heq))

theorem selects_filter (h : rules.all.Pairwise fun a b => ¬Text.sameFolded a.name b.name = true)
    (names : List Text) : rules.Selects names (rules.byName.filter (asks names)) where
  mem_iff rule := by
    simp [List.mem_filter, mem_byName, asks]
  increasing := (byName_increasing h).filter _

end Registry

/-- A rule as it is described: its name, and then its description, indented. -/
def Rule.described (rule : Rule) : List Text :=
  rule.name :: (Text.pieces '\n' rule.doc).map ("    " ++ ·)

namespace Session

variable {session : Session}

theorem forEach_print {α : Type} (f : α → Text) (items : List α) (session : Session) :
    forEach (fun item => Action.print (f item)) items session =
      ⟨items.flatMap f, [], session, .ok ()⟩ := by
  induction items with
  | nil => rfl
  | cons item items ih =>
    rw [forEach, andThen_of_ok rfl, ih]
    rfl

/-- Names are checked up to the first one that no rule has. -/
theorem checkNames_eq (rules : Registry) (names : List Text) (session : Session) :
    checkNames rules names session =
      match names.find? fun name => !rules.knows name with
      | some name => ⟨[], [], session, .error (.fault (.unknownRule name))⟩
      | none => ⟨[], [], session, .ok ()⟩ := by
  induction names with
  | nil => rfl
  | cons name names ih =>
    rw [checkNames]
    cases hknows : rules.knows name with
    | true =>
      rw [List.find?_cons_of_neg (by simp [hknows]), ← ih]
      rfl
    | false =>
      rw [List.find?_cons_of_pos (by simp [hknows])]
      rfl

/-- A rule as it is printed. -/
theorem page_described (rules : List Rule) :
    Text.page (rules.flatMap Rule.described) =
      rules.flatMap fun rule => Text.line rule.name ++ indent "    " rule.doc := by
  rw [Text.page, List.flatMap_assoc]
  refine List.flatMap_congr fun rule _ => ?_
  rw [Rule.described, List.flatMap_cons, List.flatMap_map]
  rfl

/-- Names that have been checked ask for the same rules after they have been stripped. -/
theorem asks_eq {rules : Registry} {names : List Text}
    (h : (names.find? fun name => !rules.knows name) = none) (rule : Rule) :
    ((names.map fun name => Text.lower (Text.strip name)).isEmpty ||
        (names.map fun name => Text.lower (Text.strip name)).contains (Text.lower rule.name)) =
      Registry.asks names rule := by
  have hstrip : names.map (fun name => Text.lower (Text.strip name)) = names.map Text.lower := by
    refine List.map_congr_left fun name hname => ?_
    have hknows : rules.knows name = true := by simpa using List.find?_eq_none.mp h name hname
    obtain ⟨known, -, hsame⟩ := Registry.knows_iff.mp hknows
    rw [Text.strip_of_sameFolded hsame known.solid]
  rw [hstrip, List.isEmpty_map, Registry.asks]
  congr 1
  rw [Bool.eq_iff_iff]
  simp only [List.contains_iff_mem, List.mem_map, List.any_eq_true, Text.sameFolded, beq_iff_eq]

/-- **What describing rules comes to**: all rules are asked for, and then there is a fault at the
first name that no rule has, and else a page with the rules that the names ask for. -/
theorem describeRules_eq (names : List Text) (session : Session) :
    describeRules names session =
      match names.find? fun name => !session.askedAll.rules.knows name with
      | some name => ⟨[], [], session.askedAll, .error (.fault (.unknownRule name))⟩
      | none => ⟨Text.page ((session.askedAll.rules.byName.filter (Registry.asks names)).flatMap
          Rule.described), [], session.askedAll, .ok ()⟩ := by
  have hask : describeRules names session =
      andThen (checkNames session.askedAll.rules names) (fun _ =>
        forEach (fun rule => Action.print (Text.line rule.name ++ indent "    " rule.doc))
          (session.askedAll.rules.byName.filter fun rule =>
            (names.map fun name => Text.lower (Text.strip name)).isEmpty ||
              (names.map fun name => Text.lower (Text.strip name)).contains
                (Text.lower rule.name))) session.askedAll := rfl
  rw [hask]
  generalize session.askedAll = reached
  have hchecked := checkNames_eq reached.rules names reached
  cases hfind : names.find? fun name => !reached.rules.knows name with
  | some name =>
    rw [hfind] at hchecked
    rw [andThen_of_error hchecked]
  | none =>
    rw [hfind] at hchecked
    rw [andThen_of_ok hchecked, forEach_print, page_described]
    have hasks := List.filter_congr fun rule (_ : rule ∈ reached.rules.byName) => asks_eq hfind rule
    rw [hasks]
    rfl

/-- Names are the same as others, if neither letter case nor their order nor repetitions count. -/
def SameNames (names others : List Text) : Prop :=
  ∀ folded, folded ∈ names.map Text.lower ↔ folded ∈ others.map Text.lower

namespace SameNames

variable {names others : List Text}

theorem symm (h : SameNames names others) : SameNames others names := fun folded => (h folded).symm

theorem exists_sameFolded (h : SameNames names others) {name : Text} (hname : name ∈ names) :
    ∃ other ∈ others, Text.lower other = Text.lower name :=
  List.mem_map.mp ((h _).mp (List.mem_map_of_mem hname))

theorem eq_nil (h : SameNames names others) (hnil : names = []) : others = [] := by
  refine List.eq_nil_iff_forall_not_mem.mpr fun other hother => ?_
  obtain ⟨name, hname, -⟩ := h.symm.exists_sameFolded hother
  rw [hnil] at hname
  cases hname

theorem find?_eq_none (h : SameNames names others) {rules : Registry}
    (hnone : (names.find? fun name => !rules.knows name) = none) :
    (others.find? fun name => !rules.knows name) = none := by
  refine List.find?_eq_none.mpr fun other hother => ?_
  obtain ⟨name, hname, hlower⟩ := h.symm.exists_sameFolded hother
  have hsame : rules.knows other = rules.knows name := by
    simp only [Registry.knows, Text.sameFolded, hlower]
  rw [hsame]
  exact List.find?_eq_none.mp hnone name hname

theorem asks_of_asks (h : SameNames names others) {rule : Rule}
    (hasks : Registry.asks names rule = true) : Registry.asks others rule = true := by
  rw [Registry.asks, Bool.or_eq_true, List.isEmpty_iff, List.any_eq_true] at hasks ⊢
  refine hasks.imp h.eq_nil ?_
  rintro ⟨name, hname, hsame⟩
  obtain ⟨other, hother, hlower⟩ := h.exists_sameFolded hname
  refine ⟨other, hother, ?_⟩
  rw [Text.sameFolded, hlower]
  exact hsame

theorem asks_eq (h : SameNames names others) : Registry.asks others = Registry.asks names := by
  funext rule
  exact Bool.eq_iff_iff.mpr ⟨h.symm.asks_of_asks, h.asks_of_asks⟩

end SameNames

/-- **Describing rules by their names.** If some name is that of no rule, letter case aside, the
first such name is a fault, and nothing has been shown. Otherwise the rules that have been named, or
all rules if none has, are shown once each and in the order of their names, each followed by its
description with four spaces before every line. What is shown depends on the set of names alone, in
which letter case does not count. The session stays as it is, except that by then all rules were
made. -/
theorem describeRules_by_names
    (h : session.rules.all.Pairwise fun a b => ¬Text.sameFolded a.name b.name = true)
    (names : List Text) :
    (∀ before name after, names = before ++ name :: after →
      (∀ other ∈ before, ∃ rule ∈ session.rules.all, Text.sameFolded other rule.name = true) →
      (∀ rule ∈ session.rules.all, ¬Text.sameFolded name rule.name = true) →
      describeRules names session =
        ⟨[], [], { session with made := session.askedAll.made },
          .error (.fault (.unknownRule name))⟩) ∧
    ((∀ name ∈ names, ∃ rule ∈ session.rules.all, Text.sameFolded name rule.name = true) →
      ∃ shown, session.rules.Selects names shown ∧
        describeRules names session =
          ⟨Text.page (shown.flatMap Rule.described), [],
            { session with made := session.askedAll.made }, .ok ()⟩) ∧
    ∀ others, SameNames names others →
      (describeRules others session).out = (describeRules names session).out ∧
        ((describeRules others session).result = .ok () ↔
          (describeRules names session).result = .ok ()) := by
  have hknows (name : Text) : session.rules.knows name = true ↔
      ∃ rule ∈ session.rules.all, Text.sameFolded name rule.name = true := List.any_eq_true
  have hasked := askedAll_of_coherent (Registry.coherent_of_distinct h)
  have hrules : session.askedAll.rules = session.rules := by rw [hasked]
  have hdescribe (names : List Text) := describeRules_eq names session
  simp only [hrules] at hdescribe
  refine ⟨?_, fun hnames => ?_, fun others hsame => ?_⟩
  · intro before name after hnames hbefore hname
    have hunknown : ¬session.rules.knows name = true := by
      rw [hknows]
      rintro ⟨rule, hrule, hsame⟩
      exact hname rule hrule hsame
    have hfind : (names.find? fun name => !session.rules.knows name) = some name := by
      refine List.find?_eq_some_iff_append.mpr ⟨by simpa using hunknown, before, after, hnames, ?_⟩
      intro other hother
      simpa using (hknows other).mpr (hbefore other hother)
    rw [hdescribe, hfind, ← hasked]
  · have hfind : (names.find? fun name => !session.rules.knows name) = none := by
      refine List.find?_eq_none.mpr fun name hname => ?_
      simpa using (hknows name).mpr (hnames name hname)
    refine ⟨_, Registry.selects_filter h names, ?_⟩
    rw [hdescribe, hfind, ← hasked]
  · rw [hdescribe, hdescribe]
    cases hfind : names.find? fun name => !session.rules.knows name with
    | none =>
      rw [hsame.find?_eq_none hfind, hsame.asks_eq]
      exact ⟨rfl, Iff.rfl⟩
    | some name =>
      cases hother : others.find? fun name => !session.rules.knows name with
      | none =>
        rw [hsame.symm.find?_eq_none hother] at hfind
        cases hfind
      | some other => exact ⟨rfl, iff_of_false nofun nofun⟩

/-- Two rules are asked for, one of them twice, and all names are in the wrong letter case. -/
theorem describeRules_by_names_twice :
    let names : List Text := ["linetoolong", "FILETOOLONG", "LineTooLONG"]
    let others : List Text := ["FileTooLong", "LineTooLong"]
    let line : Rule := .ofCheck (.general (.lineLength 100)) .warning
    let file : Rule := .ofCheck (.general (.fileLength 300)) .warning
    describeRules names {} =
        ⟨Text.page (file.described ++ line.described), [],
          { made := Registry.standing.map Rule.folded }, .ok ()⟩ ∧
      (describeRules others {}).out = (describeRules names {}).out := by
  intro names others line file
  have hnodup : (Registry.standing.all.map Rule.folded).Nodup := by
    rw [((Registry.all_perm Registry.standing).map Rule.folded).nodup_iff,
      Registry.standing_eq_tuned]
    exact Registry.nodup_folded_tuned _ _
  have hdistinct : ({} : Session).rules.all.Pairwise fun a b =>
      ¬Text.sameFolded a.name b.name = true :=
    (List.pairwise_map.mp hnodup).imp fun hne hsame => hne (beq_iff_eq.mp hsame)
  have hfile : file ∈ Registry.standing.all := Registry.mem_all_iff.mpr
    (List.mem_of_getElem? (show Registry.standing[17]? = some file from rfl))
  have hline : line ∈ Registry.standing.all := Registry.mem_all_iff.mpr
    (List.mem_of_getElem? (show Registry.standing[15]? = some line from rfl))
  have hmeant : ∀ name ∈ names, Text.lower name = file.folded ∨ Text.lower name = line.folded := by
    decide +kernel
  have hnames : ∀ name ∈ names, ∃ rule ∈ ({} : Session).rules.all,
      Text.sameFolded name rule.name = true := fun name hname =>
    (hmeant name hname).elim (fun h => ⟨file, hfile, beq_iff_eq.mpr h⟩)
      fun h => ⟨line, hline, beq_iff_eq.mpr h⟩
  have hselects : ({} : Session).rules.Selects names [file, line] := by
    have hsame {a b : Rule} (ha : a ∈ Registry.standing.all) (hb : b ∈ Registry.standing.all)
        (h : a.folded = b.folded) : a = b := List.inj_on_of_nodup_map hnodup ha hb h
    refine ⟨fun rule => ⟨fun hrule => ?_, ?_⟩, ?_⟩
    · rcases List.mem_pair.mp hrule with rfl | rfl
      · exact ⟨hfile, .inr ⟨"FILETOOLONG", by decide, by decide +kernel⟩⟩
      · exact ⟨hline, .inr ⟨"linetoolong", by decide, by decide +kernel⟩⟩
    · rintro ⟨hrule, hnone | ⟨name, hname, hasked⟩⟩
      · exact absurd hnone (List.cons_ne_nil _ _)
      · have hfolded : Text.lower name = rule.folded := beq_iff_eq.mp hasked
        refine List.mem_pair.mpr ((hmeant name hname).imp ?_ ?_) <;> intro h
        · exact hsame hrule hfile (hfolded.symm.trans h)
        · exact hsame hrule hline (hfolded.symm.trans h)
    · refine List.pairwise_pair.mpr ((Text.le_iff.mp ?_).resolve_left ?_) <;> decide +kernel
  obtain ⟨-, hshown, hothers⟩ := describeRules_by_names hdistinct names
  obtain ⟨shown, hshown, hpage⟩ := hshown hnames
  obtain rfl := hshown.eq hselects
  have hmade : ({} : Session).askedAll.made = Registry.standing.map Rule.folded := by decide +kernel
  rw [hmade] at hpage
  have hto : ∀ folded ∈ names.map Text.lower, folded ∈ others.map Text.lower := by decide +kernel
  have hfrom : ∀ folded ∈ others.map Text.lower, folded ∈ names.map Text.lower := by decide +kernel
  exact ⟨hpage, (hothers others fun folded => ⟨hto folded, hfrom folded⟩).1⟩

end Session

end SuiteLint
