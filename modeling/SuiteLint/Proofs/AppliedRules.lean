import Mathlib.Tactic
import SuiteLint.Session.Lint

/-!
# Which rules are applied

Rules of the same name, letter case aside, become one rule when the rules of a scope are
asked for, and which of them it becomes depends on what is asked for first. What does not
depend on it is said here: in each place there is a rule of the same name and scope as
before, and it is one of the rules that were there (`Registry.exists_chosen_eq`).

If rules of the same name are the same to begin with, but for their scope, there is nothing
to choose (`Registry.Coherent`). Asking then leaves the rules as they are
(`Session.asked_of_coherent`), and what is applied to a document can be told beforehand
(`Registry.applications`).
-/

namespace SuiteLint

/-! ### Rules in other scopes -/

namespace Rule

@[simp] theorem folded_under (scope : Scope) (rule : Rule) :
    (rule.under scope).folded = rule.folded := rfl

@[simp] theorem scope_under (scope : Scope) (rule : Rule) : (rule.under scope).scope = scope := rfl

@[simp] theorem under_under (scope other : Scope) (rule : Rule) :
    (rule.under scope).under other = rule.under other := rfl

end Rule

/-! ### Rules by scope -/

namespace Registry

/-- Taking rules scope by scope takes each of them once. -/
theorem all_perm (rules : Registry) : rules.all.Perm rules := by
  refine List.perm_iff_count.mpr fun rule => ?_
  have hscope (scope : Scope) :
      (rules.ofScope scope).count rule = if rule.scope = scope then rules.count rule else 0 := by
    unfold ofScope
    split
    next h => exact List.count_filter (decide_eq_true h)
    next h =>
      refine List.count_eq_zero.mpr fun hmem => h ?_
      have hkept := List.of_mem_filter hmem
      exact of_decide_eq_true hkept
  simp only [all, List.count_append, hscope]
  cases rule.scope <;> simp

theorem mem_all_iff {rules : Registry} {rule : Rule} : rule ∈ rules.all ↔ rule ∈ rules :=
  (all_perm rules).mem_iff

theorem mem_of_mem_active {rules : Registry} {scope : Scope} {rule : Rule}
    (h : rule ∈ rules.active scope) : rule ∈ rules ∧ rule.scope = scope :=
  (List.mem_filter.mp (List.mem_of_mem_filter h)).imp_right of_decide_eq_true

end Registry

/-! ### Asking for rules -/

namespace Registry

variable {made : List Text} {rules : Registry}

/-- What is chosen for a place is one of the rules, in the scope of the place. -/
theorem exists_chosen_eq {rule : Rule} (h : rule ∈ rules) (made : List Text) (scope : Scope) :
    ∃ origin ∈ rules, origin.folded = rule.folded ∧
      chosen made rules scope rule = origin.under rule.scope := by
  unfold chosen
  split
  · exact ⟨rule, h, rfl, rfl⟩
  · split
    next first hfind =>
      have hfolded := List.find?_some hfind
      exact ⟨first, List.mem_of_mem_filter (List.mem_of_find?_eq_some hfind),
        beq_iff_eq.mp hfolded, rfl⟩
    · exact ⟨rule, h, rfl, rfl⟩

@[simp] theorem folded_chosen (made : List Text) (rules : Registry) (scope : Scope)
    (rule : Rule) : (chosen made rules scope rule).folded = rule.folded := by
  unfold chosen
  split
  · rfl
  · split
    next first hfind =>
      have hfolded := List.find?_some hfind
      exact beq_iff_eq.mp hfolded
    · rfl

@[simp] theorem scope_chosen (made : List Text) (rules : Registry) (scope : Scope)
    (rule : Rule) : (chosen made rules scope rule).scope = rule.scope := by
  unfold chosen
  split
  · rfl
  · split <;> rfl

/-- A rule that was made stays in its place. -/
theorem chosen_of_made {rule : Rule} (h : rule.folded ∈ made) (scope : Scope) :
    chosen made rules scope rule = rule := by
  rw [chosen, if_pos (List.contains_iff_mem.mpr h)]

theorem mem_madeAfter {scope : Scope} {name : Text} :
    name ∈ rules.madeAfter made scope ↔
      name ∈ made ∨ ∃ rule ∈ rules, rule.scope = scope ∧ rule.folded = name := by
  simp only [madeAfter, ofScope, List.mem_append, List.mem_filter, List.mem_map,
    decide_eq_true_eq]
  constructor
  · rintro (hmade | ⟨⟨rule, ⟨hrule, hscope⟩, hfolded⟩, -⟩)
    · exact .inl hmade
    · exact .inr ⟨rule, hrule, hscope, hfolded⟩
  · rintro (hmade | ⟨rule, hrule, hscope, hfolded⟩)
    · exact .inl hmade
    · by_cases hmade : name ∈ made
      · exact .inl hmade
      · exact .inr ⟨⟨rule, ⟨hrule, hscope⟩, hfolded⟩, by simpa using hmade⟩

/-- **Rules between which there is nothing to choose**: those of the same name are the same
but for their scope. -/
def Coherent (rules : Registry) : Prop :=
  ∀ a ∈ rules, ∀ b ∈ rules, a.folded = b.folded → a.under b.scope = b

theorem settle_of_coherent (h : rules.Coherent) (made : List Text) (scope : Scope) :
    rules.settle made scope = rules := by
  refine (List.map_congr_left fun rule hrule => ?_).trans (List.map_id rules)
  obtain ⟨origin, horigin, hfolded, hchosen⟩ := exists_chosen_eq hrule made scope
  rw [hchosen, h origin horigin rule hrule hfolded]
  rfl

/-- Rules of different names leave nothing to choose. -/
theorem coherent_of_nodup (h : (rules.map Rule.folded).Nodup) : rules.Coherent := by
  intro a ha b hb hfolded
  rw [List.inj_on_of_nodup_map h ha hb hfolded]
  rfl

end Registry

namespace Session

variable {session : Session}

/-- **Asking leaves rules alone** if there is nothing to choose. -/
theorem asked_of_coherent (h : session.rules.Coherent) (scope : Scope) :
    session.asked scope =
      { session with made := session.rules.madeAfter session.made scope } := by
  rw [asked, Registry.settle_of_coherent h]

theorem rules_asked_of_coherent (h : session.rules.Coherent) (scope : Scope) :
    (session.asked scope).rules = session.rules :=
  Registry.settle_of_coherent h session.made scope

/-- What no scope takes away when its rules are asked for is not taken away by all of them. -/
theorem askedAll_induction {P : Session → Prop} (h : ∀ s scope, P s → P (Session.asked s scope))
    (hsession : P session) : P session.askedAll :=
  h _ _ (h _ _ (h _ _ (h _ _ (h _ _ hsession))))

theorem askedAll_of_coherent (h : session.rules.Coherent) :
    session.askedAll = { session with made := session.askedAll.made } := by
  obtain ⟨made, hmade⟩ : ∃ made, session.askedAll = { session with made } := by
    refine askedAll_induction (P := fun s => ∃ made, s = { session with made }) ?_
      ⟨session.made, rfl⟩
    -- the rules are the same after each scope, so there is nothing to choose for the next
    rintro _ scope ⟨made, rfl⟩
    have hrules : ({ session with made } : Session).rules.Coherent := h
    exact ⟨_, asked_of_coherent hrules scope⟩
  rw [hmade]

/-- The rules of a scope were made. -/
def Made (session : Session) (scope : Scope) : Prop :=
  ∀ rule ∈ session.rules, rule.scope = scope → rule.folded ∈ session.made

theorem made_asked (session : Session) (scope : Scope) : (session.asked scope).Made scope := by
  intro rule hrule hscope
  obtain ⟨place, hplace, rfl⟩ := List.mem_map.mp hrule
  rw [Registry.scope_chosen] at hscope
  exact Registry.mem_madeAfter.mpr (.inr ⟨place, hplace, hscope, (Registry.folded_chosen ..).symm⟩)

/-- What was made stays so. -/
theorem Made.asked {scope : Scope} (h : session.Made scope) (other : Scope) :
    (session.asked other).Made scope := by
  intro rule hrule hscope
  obtain ⟨place, hplace, rfl⟩ := List.mem_map.mp hrule
  rw [Registry.scope_chosen] at hscope
  rw [Registry.folded_chosen]
  exact Registry.mem_madeAfter.mpr (.inl (h place hplace hscope))

/-- **Once all rules were asked for, all of them were made.** -/
theorem mem_made_askedAll {rule : Rule} (h : rule ∈ session.askedAll.rules) :
    rule.folded ∈ session.askedAll.made := by
  refine (?_ : session.askedAll.Made rule.scope) rule h rfl
  cases rule.scope with
  | suite => exact ((((made_asked _ _).asked _).asked _).asked _).asked _
  | resource => exact (((made_asked _ _).asked _).asked _).asked _
  | test => exact ((made_asked _ _).asked _).asked _
  | keyword => exact (made_asked _ _).asked _
  | general => exact made_asked _ _

end Session

/-! ### The order of application -/

namespace Registry

/-- The rules of a scope with their verdicts on a document. -/
def onDocument (rules : Registry) (scope : Scope) (document : Document) : List (Rule × Verdict) :=
  (rules.active scope).map fun rule => (rule, rule.check.onDocument document)

/-- The rules of a scope with their verdicts on blocks, block by block. -/
def onBlocks (rules : Registry) (scope : Scope) (document : Document) (blocks : List Block) :
    List (Rule × Verdict) :=
  blocks.flatMap fun block =>
    (rules.active scope).map fun rule => (rule, rule.check.onBlock document block)

/-- The rules that are applied to a document, with their verdicts, in order, if the rules are
the same in all rounds. -/
def applications (rules : Registry) (document : Document) : List (Rule × Verdict) :=
  document.rounds.flatMap (Round.applications rules)

/-- **The order of application**: general rules first, then, for a suite, the rules on suites
and the rules on test cases, for any other file the rules on resources, and at last the rules
on keywords. -/
theorem applications_eq (rules : Registry) (document : Document) :
    rules.applications document =
      rules.onDocument .general document ++
        (if document.isSuite then
          rules.onDocument .suite document ++ rules.onBlocks .test document document.testCases
        else rules.onDocument .resource document) ++
        rules.onBlocks .keyword document document.keywords := by
  have hblocks (scope : Scope) (blocks : List Block) :
      (blocks.map fun block => ((scope, .block document block) : Round)).flatMap
        (Round.applications rules) = rules.onBlocks scope document blocks := by
    rw [List.flatMap_map]
    rfl
  have hdocument (scope : Scope) :
      [((scope, .document document) : Round)].flatMap (Round.applications rules) =
        rules.onDocument scope document := by
    rw [List.flatMap_singleton]
    rfl
  unfold applications Document.rounds
  rw [List.flatMap_append, List.flatMap_append, hdocument, hblocks]
  split
  · rw [List.flatMap_cons, hblocks]
    rfl
  · rw [hdocument]

end Registry

end SuiteLint
