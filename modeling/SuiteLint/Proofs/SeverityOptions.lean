import Mathlib.Tactic
import SuiteLint.Proofs.Actions
import SuiteLint.Proofs.TunedRules

/-!
# Options that give severities

Three options give a severity to the rule that they name, or to all rules. They look at
the name twice, after all rules were asked for. Whether there is such a rule is asked up to
letter case, and a name that no rule has is a fault. The severity is then given to the rules of
exactly this name.

So an option whose name has letters of the wrong case is taken up without complaint and
changes nothing. It does what it would do if letter case did not matter only where there is
nothing to do: all rules that it would concern have the severity already
(`Session.perform_severity`).
-/

namespace SuiteLint

open SuiteLint.Action

/-- The severity that an option gives, if it gives one. -/
def Switch.severity? : Switch → Option Severity
  | .error => some .error
  | .warning => some .warning
  | .ignore => some .ignore
  | _ => none

namespace Registry

/-- The rules, with a severity given to some of them. -/
def give (severity : Severity) (p : Rule → Prop) [DecidablePred p] (rules : Registry) : Registry :=
  rules.map fun rule => if p rule then { rule with severity } else rule

/-- It matters to whom a severity is given unless they have it already. -/
theorem give_eq_give_iff {severity : Severity} {p q : Rule → Prop} [DecidablePred p]
    [DecidablePred q] {rules : Registry} :
    rules.give severity p = rules.give severity q ↔
      ∀ rule ∈ rules, (p rule ↔ q rule) ∨ rule.severity = severity := by
  have hgiven (rule : Rule) : { rule with severity } = rule ↔ rule.severity = severity := by
    obtain ⟨name, solid, scope, description, check, own⟩ := rule
    simp only [Rule.mk.injEq, true_and, eq_comm]
  unfold give
  rw [List.map_inj_left]
  refine forall₂_congr fun rule _ => ?_
  -- the severity that the rule had shows only where one gives and the other does not
  by_cases hp : p rule <;> by_cases hq : q rule
  · simp [hp, hq]
  · simp [hp, hq, hgiven]
  · rw [if_neg hp, if_pos hq, eq_comm, hgiven]
    simp [hp, hq]
  · simp [hp, hq]

/-- Whether there is a rule of a name is asked up to letter case. -/
theorem knows_iff {rules : Registry} {name : Text} :
    rules.knows name = true ↔ ∃ rule ∈ rules, Text.sameFolded name rule.name = true := by
  simp only [knows, List.any_eq_true, mem_all_iff]

/-- The names that options may use: those of rules up to letter case, and the one that
stands for all rules. -/
def Admits (rules : Registry) (name : Text) : Prop :=
  name = "all" ∨ ∃ rule ∈ rules, Text.sameFolded name rule.name = true

theorem setSeverity_of_not_admits {rules : Registry} {name : Text} (h : ¬rules.Admits name)
    (severity : Severity) : rules.setSeverity name severity = .error (.unknownRule name) := by
  obtain ⟨hall, hrule⟩ := not_or.mp h
  exact if_pos ⟨hall, fun hknows => hrule (knows_iff.mp hknows)⟩

/-- A severity is given to the rules of exactly the given name. -/
theorem setSeverity_of_admits {rules : Registry} {name : Text} (h : rules.Admits name)
    (severity : Severity) :
    rules.setSeverity name severity =
      .ok (rules.give severity fun rule => name = "all" ∨ name = rule.name) := by
  have hknown : ¬(name ≠ "all" ∧ ¬rules.knows name) := by
    rintro ⟨hall, hunknown⟩
    exact hunknown (knows_iff.mpr (h.resolve_left hall))
  unfold setSeverity
  rw [if_neg hknown]
  refine congrArg Except.ok (List.map_congr_left fun rule _ => ?_)
  have hconcerns : concerns name rule = true ↔ name = "all" ∨ name = rule.name :=
    concerns_iff.trans or_comm
  simp only [hconcerns]

/-- When letter case makes no difference to whom a severity is given. -/
theorem give_exact_eq_give_folded_iff {rules : Registry} {name : Text} {severity : Severity} :
    rules.give severity (fun rule => name = "all" ∨ name = rule.name) =
        rules.give severity (fun rule => name = "all" ∨ Text.sameFolded name rule.name = true) ↔
      ∀ rule ∈ rules, name ≠ "all" → name ≠ rule.name →
        Text.sameFolded name rule.name = true → rule.severity = severity := by
  rw [give_eq_give_iff]
  refine forall₂_congr fun rule _ => ?_
  -- an exact name is also one up to letter case, so the two differ in one direction only
  have hsame : name = rule.name → Text.sameFolded name rule.name = true := by
    rintro rfl
    exact beq_self_eq_true _
  tauto

end Registry

namespace Session

variable {switch : Switch} {given : Severity}

/-- What the three options do. -/
theorem perform_eq_setSeverity (hswitch : switch.severity? = some given) (tree : FileTree)
    (nested : Settings → List Text → Action Settings) (settings : Settings) (name : Text) :
    perform tree nested settings ⟨switch, name⟩ =
      andThen (setSeverity name given) fun _ => done settings := by
  cases switch with
  | error | warning | ignore =>
    cases hswitch
    rfl
  | _ => cases hswitch

/-- All rules are asked for, and others are put in their place unless there is a fault. -/
theorem andThen_askAll (revision : Registry → Except Fault Registry) (session : Session) :
    andThen askAll (fun rules => andThen (ofExcept (revision rules)) setRules) session =
      match revision session.askedAll.rules with
      | .ok rules => ⟨[], [], { session.askedAll with rules }, .ok ()⟩
      | .error fault => ⟨[], [], session.askedAll, .error (.fault fault)⟩ := by
  change andThen (ofExcept (revision session.askedAll.rules)) setRules session.askedAll = _
  rcases revision session.askedAll.rules with fault | rules <;> rfl

/-- The rules are asked for, and then they change as severities are given or stay as they
are. -/
theorem setSeverity_eq (name : Text) (severity : Severity) (session : Session) :
    setSeverity name severity session =
      match session.askedAll.rules.setSeverity name severity with
      | .ok rules => ⟨[], [], { session.askedAll with rules }, .ok ()⟩
      | .error fault => ⟨[], [], session.askedAll, .error (.fault fault)⟩ :=
  andThen_askAll (fun rules => rules.setSeverity name severity) session

/-- **What becomes of an option that gives a severity.** All rules are asked for. The option is
refused if none of them has its name up to letter case. Otherwise it gives the severity to the
rules of exactly this name, or to all rules, and changes nothing else. This is what it would do
without regard to letter case exactly if the rules whose names differ from the given one in
letter case only have the severity already. -/
theorem perform_severity (hswitch : switch.severity? = some given) (tree : FileTree)
    (nested : Settings → List Text → Action Settings) (settings : Settings) (name : Text)
    (session : Session) :
    let outcome := perform tree nested settings ⟨switch, name⟩ session
    let asked := session.askedAll
    (¬asked.rules.Admits name →
      outcome = ⟨[], [], asked, .error (.fault (.unknownRule name))⟩) ∧
    (asked.rules.Admits name →
      outcome = ⟨[], [], { asked with rules := asked.rules.give given fun rule =>
        name = "all" ∨ name = rule.name }, .ok settings⟩) ∧
    (asked.rules.give given (fun rule => name = "all" ∨ name = rule.name) =
        asked.rules.give given (fun rule =>
          name = "all" ∨ Text.sameFolded name rule.name = true) ↔
      ∀ rule ∈ asked.rules, name ≠ "all" → name ≠ rule.name →
        Text.sameFolded name rule.name = true → rule.severity = given) := by
  intro outcome asked
  have houtcome : outcome = andThen (setSeverity name given) (fun _ => done settings) session :=
    congrFun (perform_eq_setSeverity hswitch tree nested settings name) session
  have hset := setSeverity_eq name given session
  refine ⟨fun hrefused => ?_, fun hadmits => ?_, Registry.give_exact_eq_give_folded_iff⟩
  · rw [Registry.setSeverity_of_not_admits hrefused] at hset
    rw [houtcome, andThen_of_error hset]
  · rw [Registry.setSeverity_of_admits hadmits] at hset
    rw [houtcome, andThen_of_ok hset]
    rfl

/-- The name of a rule in small letters is accepted, and the rule stays a warning. -/
theorem perform_severity_other_case :
    let name : Text := "linetoolong"
    let outcome := perform { entries := [], workingFolder := [] }
      (fun settings _ => done settings) {} ⟨.error, name⟩ {}
    outcome.result = .ok {} ∧ outcome.session.rules = Registry.standing ∧
      outcome.session.rules ≠ Registry.standing.give .error fun rule =>
        name = "all" ∨ Text.sameFolded name rule.name = true := by
  intro name outcome
  have hasked : ({} : Session).askedAll.rules = Registry.standing := by
    rw [askedAll_of_coherent Registry.coherent_standing]
  have hrule : .ofCheck (.general (.lineLength 100)) .warning ∈ ({} : Session).askedAll.rules := by
    rw [hasked]
    exact List.mem_of_getElem? (i := 15) rfl
  have hname : Text.sameFolded name "LineTooLong" = true := by decide
  have hswitch : Switch.error.severity? = some .error := rfl
  obtain ⟨-, haccepted, hcase⟩ := perform_severity hswitch { entries := [], workingFolder := [] }
    (fun settings _ => done settings) {} name {}
  have houtcome : outcome = _ := haccepted (.inr ⟨_, hrule, hname⟩)
  rw [hasked] at hcase houtcome
  have hnone : ∀ rule ∈ Registry.standing, ¬(name = "all" ∨ name = rule.name) := by decide +kernel
  have hsame : Registry.standing.give .error (fun rule => name = "all" ∨ name = rule.name) =
      Registry.standing :=
    (List.map_congr_left fun rule hrule => if_neg (hnone rule hrule)).trans (List.map_id _)
  refine ⟨by rw [houtcome], ?_, fun hheeded => ?_⟩
  · rw [houtcome]
    exact hsame
  · rw [houtcome] at hheeded
    have herror := hcase.mp hheeded _ (hasked ▸ hrule) (by decide) (by decide) hname
    cases herror

end Session

end SuiteLint
