import Mathlib.Tactic
import SuiteLint.Proofs.Trace

/-!
# Reporting with the default template

The default template can be filled in for every finding (`Report.render_default`). So a
finding can always be reported once a file was begun, and linting gives up only where a
rule does: it does so at the first one (`Session.forEach_perform_ready`).
-/

namespace SuiteLint

open SuiteLint.Action

/-- **A finding in the default template**: severity, line, position, message and rule. -/
theorem Report.render_default (report : Report) :
    report.render defaultTemplate =
      .ok (report.severity.code ++ (": " ++ (Text.ofInt report.line ++ (", " ++
        (Text.ofInt report.char ++ (": " ++ (report.message ++ (" (" ++
          (report.rule ++ ")"))))))))) := by
  rfl

namespace Session

/-! ### Actions that give a result -/

/-- A session in which findings can be reported: a file was begun, and findings are shown
in the default template. -/
structure Ready (session : Session) : Prop where
  /-- A file was begun. -/
  heading : session.heading ≠ none
  /-- Findings are shown in the default template. -/
  template : session.settings.template = defaultTemplate

/-- An action that gives a result wherever findings can be reported, and leaves it so. -/
def Succeeds {α : Type} (action : Action α) : Prop :=
  ∀ session, Ready session → ∃ a, (action session).result = .ok a ∧ Ready (action session).session

section Succeeds

variable {α β : Type}

theorem succeeds_bind {first : Action α} {next : α → Action β} (hfirst : Succeeds first)
    (hnext : ∀ a, Succeeds (next a)) : Succeeds (first >>= next) := by
  intro session hready
  change ∃ b, (andThen first next session).result = .ok b ∧
    Ready (andThen first next session).session
  obtain ⟨a, hresult, hafter⟩ := hfirst session hready
  rcases heq : first session with ⟨out, err, after, result⟩
  rw [heq] at hresult hafter
  obtain rfl : result = .ok a := hresult
  rw [andThen_of_ok heq]
  exact hnext a after hafter

theorem succeeds_passOver {action : Action Unit} (h : Succeeds action) :
    Succeeds action.passOver := by
  intro session hready
  obtain ⟨a, hresult, hafter⟩ := h session hready
  have hpass : action.passOver session = action session := by
    unfold passOver
    simp only [hresult]
  rw [hpass]
  exact ⟨a, hresult, hafter⟩

end Succeeds

/-! ### Reporting -/

theorem succeeds_showHeading : Succeeds showHeading := by
  rintro ⟨rules, made, extensions, settings, counts, heading, input, bound⟩ ⟨hheading, htemplate⟩
  rcases heading with _ | _ | name
  · exact absurd rfl hheading
  · exact ⟨(), rfl, hheading, htemplate⟩
  · exact ⟨(), rfl, Option.some_ne_none none, htemplate⟩

theorem succeeds_count (severity : Severity) : Succeeds (count severity) :=
  fun _ hready => ⟨(), rfl, hready.heading, hready.template⟩

theorem succeeds_report (report : Report) : Succeeds (Session.report report) := by
  refine succeeds_bind succeeds_showHeading fun _ => ?_
  refine succeeds_bind (succeeds_count report.severity) fun _ session hready => ?_
  change ∃ u, (andThen (ofExcept (report.render session.settings.template)) _ session).result =
    .ok u ∧ Ready (andThen (ofExcept (report.render session.settings.template)) _ session).session
  rw [hready.template, Report.render_default]
  exact ⟨(), rfl, hready⟩

theorem succeeds_reportRemark (rule : Rule) (path : Text) (remark : Remark) :
    Succeeds (reportRemark rule path remark) := by
  unfold reportRemark
  split
  · exact succeeds_passOver (succeeds_report _)
  · exact succeeds_report _

/-! ### Events -/

theorem succeeds_perform {event : Event} (h : ∀ fault, event ≠ .givingUp fault) :
    Succeeds event.perform := by
  cases event with
  | complaint text => exact fun session hready => ⟨(), rfl, hready⟩
  | opening path =>
    exact fun session hready => ⟨(), rfl, Option.some_ne_none _, hready.template⟩
  | asking scope => exact fun session hready => ⟨(), rfl, hready.heading, hready.template⟩
  | finding rule path remark => exact succeeds_reportRemark rule path remark
  | givingUp fault => exact absurd rfl (h fault)

/-- Events are performed up to the first rule that gives up, and that ends it. -/
theorem forEach_perform_ready {session : Session} (hready : Ready session)
    (events : List Event) :
    ((∀ fault, Event.givingUp fault ∉ events) ∧
      (forEach Event.perform events session).result = .ok ()) ∨
    ∃ fault, Event.givingUp fault ∈ events ∧
      (forEach Event.perform events session).result = .error (.fault fault) := by
  induction events generalizing session with
  | nil => exact .inl ⟨fun _ => List.not_mem_nil, rfl⟩
  | cons event events ih =>
    rw [forEach]
    by_cases hgiving : ∃ fault, event = .givingUp fault
    · obtain ⟨fault, rfl⟩ := hgiving
      refine .inr ⟨fault, List.mem_cons_self, ?_⟩
      rw [andThen_of_error (show (Event.givingUp fault).perform session = _ from rfl)]
    · have hne (fault : Fault) : event ≠ .givingUp fault := fun heq => hgiving ⟨fault, heq⟩
      obtain ⟨_, hresult, hafter⟩ := succeeds_perform hne session hready
      rcases heq : event.perform session with ⟨out, err, after, result⟩
      rw [heq] at hresult hafter
      obtain rfl : result = .ok () := hresult
      rw [andThen_of_ok heq]
      rcases ih hafter with ⟨hnone, hdone⟩ | ⟨fault, hfault, hstop⟩
      · refine .inl ⟨fun fault hmem => ?_, hdone⟩
        rcases List.mem_cons.mp hmem with heq | hmem
        · exact hne fault heq.symm
        · exact hnone fault hmem
      · exact .inr ⟨fault, List.mem_cons_of_mem _ hfault, hstop⟩

end Session

end SuiteLint
