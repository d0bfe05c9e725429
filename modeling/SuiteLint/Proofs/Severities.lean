import Mathlib.Tactic
import SuiteLint.Proofs.Output

/-!
# Severities and what is reported

Rules do not interfere with each other. To give rules other severities, by their names, is
to do two things to the reports of a run and nothing else (`Report.under`): those of rules
that are now ignored are left out, and each of the others gets the severity of its rule.
What is left stands in the same order, about the same files and places and with the same
messages.

The reason is that a verdict depends on the check of a rule and not on its severity, and
that what was reported before plays no part in it. Nor do severities matter to which of
several rules of one name is chosen (`Registry.settle_recast`). So the trace under other
severities can be read off the one in which no rule is ignored (`Session.trace_recast`). In
the default template all findings can be shown, so if the longer trace comes to its end, so
does the shorter one (`Event.forEach_under`).
-/

namespace SuiteLint

open SuiteLint.Action

/-! ### Other severities -/

/-- A rule with the severity that its name is given. -/
def Rule.recast (severity : Text → Severity) (rule : Rule) : Rule :=
  { rule with severity := severity rule.name }

/-- Rules with the severities that their names are given. -/
def Registry.recast (severity : Text → Severity) (rules : Registry) : Registry :=
  rules.map (Rule.recast severity)

namespace Report

/-- A report with the severity that the name of its rule is given. -/
def recast (severity : Text → Severity) (report : Report) : Report :=
  { report with severity := severity report.rule }

/-- What is left of reports under severities by name: those of rules that are not ignored,
with the severities of their rules. -/
def under (severity : Text → Severity) (reports : List Report) : List Report :=
  (reports.filter fun report => severity report.rule ≠ .ignore).map (recast severity)

end Report

namespace Registry

variable {severity : Text → Severity} {rules : Registry}

theorem ofScope_recast (rules : Registry) (scope : Scope) :
    (rules.recast severity).ofScope scope = (rules.ofScope scope).map (Rule.recast severity) := by
  rw [ofScope, recast, List.filter_map]
  rfl

/-- Which rule is chosen does not depend on severities. -/
theorem chosen_recast (made : List Text) (rules : Registry) (scope : Scope) (rule : Rule) :
    chosen made (rules.recast severity) scope (rule.recast severity) =
      (chosen made rules scope rule).recast severity := by
  have hfind : ((rules.recast severity).ofScope scope).find?
      (·.folded == (rule.recast severity).folded) =
        ((rules.ofScope scope).find? (·.folded == rule.folded)).map (Rule.recast severity) := by
    rw [ofScope_recast, List.find?_map]
    rfl
  have hfolded : (rule.recast severity).folded = rule.folded := rfl
  rw [chosen, chosen, hfind, hfolded]
  generalize (rules.ofScope scope).find? (·.folded == rule.folded) = found
  split
  · rfl
  · cases found <;> rfl

theorem settle_recast (made : List Text) (rules : Registry) (scope : Scope) :
    (rules.recast severity).settle made scope = (rules.settle made scope).recast severity := by
  unfold settle recast
  rw [List.map_map, List.map_map]
  exact List.map_congr_left fun rule _ => chosen_recast made rules scope rule

theorem madeAfter_recast (made : List Text) (rules : Registry) (scope : Scope) :
    (rules.recast severity).madeAfter made scope = rules.madeAfter made scope := by
  rw [madeAfter, ofScope_recast, List.map_map]
  rfl

/-- If no rule is ignored, none is after rules were asked for. -/
theorem full_settle (hfull : ∀ rule ∈ rules, rule.severity ≠ .ignore) (made : List Text)
    (scope : Scope) : ∀ rule ∈ rules.settle made scope, rule.severity ≠ .ignore := by
  intro rule hrule
  obtain ⟨place, hplace, rfl⟩ := List.mem_map.mp hrule
  obtain ⟨origin, horigin, -, hchosen⟩ := exists_chosen_eq hplace made scope
  rw [hchosen]
  exact hfull origin horigin

/-- The rules of a scope that are applied under other severities. -/
theorem active_recast (hfull : ∀ rule ∈ rules, rule.severity ≠ .ignore) (scope : Scope) :
    (rules.recast severity).active scope =
      ((rules.active scope).filter fun rule => severity rule.name ≠ .ignore).map
        (Rule.recast severity) := by
  have hactive : rules.active scope = rules.ofScope scope :=
    List.filter_eq_self.mpr fun rule hrule =>
      decide_eq_true (hfull rule (List.mem_of_mem_filter hrule))
  rw [hactive, active, ofScope_recast, List.filter_map]
  rfl

end Registry

/-- The session with the severities that the names of its rules are given. -/
def Session.recast (severity : Text → Severity) (session : Session) : Session :=
  { session with rules := session.rules.recast severity }

theorem Session.asked_recast (severity : Text → Severity) (session : Session) (scope : Scope) :
    (session.recast severity).asked scope = (session.asked scope).recast severity := by
  simp only [asked, recast, Registry.settle_recast, Registry.madeAfter_recast]

/-! ### Traces under other severities -/

namespace Event

variable {severity : Text → Severity}

/-- What is left of an event under severities by name. -/
def recast? (severity : Text → Severity) : Event → Option Event
  | finding rule path remark =>
    if severity rule.name ≠ .ignore then some (finding (rule.recast severity) path remark)
    else none
  | event => some event

/-- What is left of events under severities by name. -/
def under (severity : Text → Severity) (events : List Event) : List Event :=
  events.filterMap (recast? severity)

theorem under_append (events others : List Event) :
    under severity (events ++ others) = under severity events ++ under severity others :=
  List.filterMap_append

theorem reports_under (events : List Event) :
    reports (under severity events) = Report.under severity (reports events) := by
  induction events with
  | nil => rfl
  | cons event events ih =>
    rw [reports, under] at ih
    cases event with
    | complaint | opening | asking | givingUp => exact ih
    | finding rule path remark =>
      have hrule : (rule.report path remark).rule = rule.name := rfl
      by_cases hkept : severity rule.name ≠ .ignore
      · simp [reports, under, recast?, report?, Report.under, hkept, hrule, ih]
        rfl
      · simp only [not_not] at hkept
        simp [reports, under, recast?, report?, Report.under, hkept, hrule, ih]

/-- The findings of one rule are all left, or none of them is. -/
theorem under_ofVerdict (path : Text) (rule : Rule) (remarks : List Remark) :
    under severity (ofVerdict path (rule, .ok remarks)) =
      if severity rule.name ≠ .ignore then
        ofVerdict path (rule.recast severity, .ok remarks) else [] := by
  rw [under, ofVerdict, List.filterMap_map]
  by_cases hkept : severity rule.name ≠ .ignore
  · have hsome : recast? severity ∘ finding rule path =
        fun remark => some (finding (rule.recast severity) path remark) :=
      funext fun remark => if_pos hkept
    rw [hsome, if_pos hkept, List.filterMap_eq_map']
    rfl
  · have hnone : recast? severity ∘ finding rule path = fun _ => none :=
      funext fun remark => if_neg hkept
    rw [hnone, if_neg hkept, List.filterMap_none]

/-- **A trace in which rules are ignored comes to its end if the whole trace does**, and has
the same to complain about. -/
theorem forEach_under (severity : Text → Severity) {events : List Event} {s t : Session}
    (hok : (forEach perform events s).result = .ok ())
    (hheading : s.heading ≠ none → t.heading ≠ none)
    (htemplate : t.settings.template = defaultTemplate) :
    (forEach perform (under severity events) t).result = .ok () ∧
      (forEach perform (under severity events) t).err = (forEach perform events s).err := by
  induction events generalizing s t with
  | nil => exact ⟨rfl, rfl⟩
  | cons event events ih =>
    rw [forEach] at hok
    cases event with
    | givingUp fault => cases hok
    | complaint text =>
      obtain ⟨hdone, herr⟩ := ih hok hheading htemplate
      exact ⟨hdone, congrArg (text ++ ·) herr⟩
    | opening path =>
      have hboth : (s.opened path).heading ≠ none → (t.opened path).heading ≠ none :=
        fun _ => Option.some_ne_none _
      exact ih (s := s.opened path) (t := t.opened path) hok hboth htemplate
    | asking scope => exact ih (s := s.asked scope) (t := t.asked scope) hok hheading htemplate
    | finding rule path remark =>
      rcases hs : (finding rule path remark).perform s with ⟨out, err, after, stop | _⟩
      · rw [andThen_of_error hs] at hok
        cases hok
      rw [andThen_of_ok hs] at hok
      have hresult : ((finding rule path remark).perform s).result = .ok () := by rw [hs]
      -- something was reported, so a file was begun in both sessions
      obtain ⟨name, hname⟩ : ∃ name, s.heading = some name :=
        Option.ne_none_iff_exists'.mp fun hnone =>
          heading_ne_none_of_perform rfl hresult hnone
      have hfirst := perform_of_settles rfl (settles_of_perform hresult) hname
      obtain ⟨rfl, rfl⟩ : err = [] ∧ after = _ := by
        rw [hs] at hfirst
        exact ⟨congrArg Outcome.err hfirst, congrArg Outcome.session hfirst⟩
      obtain ⟨name', hname'⟩ := Option.ne_none_iff_exists'.mp (hheading (by simp [hname]))
      rw [forEach, andThen_of_ok hs]
      by_cases hkept : severity rule.name ≠ .ignore
      · have hevent : under severity (finding rule path remark :: events) =
            finding (rule.recast severity) path remark :: under severity events :=
          List.filterMap_cons_some (if_pos hkept)
        have hsettles : (finding (rule.recast severity) path remark).Settles
            t.settings.template := by
          intro fault hfault
          rw [htemplate, Report.render_default] at hfault
          cases hfault
        have hsecond := perform_of_settles rfl hsettles hname'
        rw [hevent, forEach, andThen_of_ok hsecond]
        exact ih hok (fun _ => Option.some_ne_none _) htemplate
      · have hevent : under severity (finding rule path remark :: events) =
            under severity events := List.filterMap_cons_none (if_neg hkept)
        rw [hevent]
        exact ih hok (fun _ => by simp [hname']) htemplate

end Event

/-- **What is left of a round.** A verdict depends on the check of a rule and not on its
severity. -/
theorem Round.events_recast {severity : Text → Severity} {rules : Registry}
    (hfull : ∀ rule ∈ rules, rule.severity ≠ .ignore) {path : Text} {round : Round}
    (hquiet : ∀ fault, Event.givingUp fault ∉ round.events rules path) :
    round.events (rules.recast severity) path =
      Event.under severity (round.events rules path) := by
  have hverdict : ∀ rule ∈ rules.active round.1,
      ∃ remarks, rule.check.on round.2 = .ok remarks := by
    intro rule hrule
    rcases hverdict : rule.check.on round.2 with fault | remarks
    · refine absurd (List.mem_cons_of_mem _ (List.mem_flatMap.mpr ⟨_, List.mem_map.mpr
        ⟨rule, hrule, rfl⟩, ?_⟩)) (hquiet (fault.ofRule rule.name))
      rw [hverdict]
      exact List.mem_cons_self
    · exact ⟨remarks, rfl⟩
  have hasking : Event.recast? severity (.asking round.1) = some (.asking round.1) := rfl
  rw [Round.events, Round.events, Event.under, List.filterMap_cons_some hasking, applications,
    applications, Registry.active_recast hfull, List.filterMap_flatMap, List.flatMap_map,
    List.flatMap_map, List.flatMap_map]
  congr 1
  generalize rules.active round.1 = active at hverdict ⊢
  induction active with
  | nil => rfl
  | cons rule active ih =>
    obtain ⟨⟨remarks, hremarks⟩, hrest⟩ := List.forall_mem_cons.mp hverdict
    have hrule : (Event.ofVerdict path (rule, rule.check.on round.2)).filterMap
        (Event.recast? severity) = if severity rule.name ≠ .ignore then
          Event.ofVerdict path (rule.recast severity, rule.check.on round.2) else [] := by
      rw [hremarks]
      exact Event.under_ofVerdict path rule remarks
    rw [List.flatMap_cons, hrule, ← ih hrest, List.filter_cons]
    by_cases hkept : severity rule.name ≠ .ignore
    · simp only [hkept, decide_true, if_true, not_false_eq_true, ne_eq, List.flatMap_cons]
      rfl
    · simp [hkept]

namespace Session

/-- **The trace under other severities** is what is left of the trace with no rule ignored. -/
theorem trace_recast {severity : Text → Severity} {session : Session}
    (hfull : ∀ rule ∈ session.rules, rule.severity ≠ .ignore) {steps : List Step}
    (hquiet : ∀ fault, Event.givingUp fault ∉ session.trace steps) :
    (session.recast severity).trace steps = Event.under severity (session.trace steps) := by
  induction steps generalizing session with
  | nil => rfl
  | cons step steps ih =>
    have hfirst (fault : Fault) : Event.givingUp fault ∉ step.events session := fun hmem =>
      hquiet fault (List.mem_append_left _ hmem)
    have hrest (fault : Fault) : Event.givingUp fault ∉ (step.after session).trace steps :=
      fun hmem => hquiet fault (List.mem_append_right _ hmem)
    rw [trace, trace, Event.under_append]
    cases step with
    | complaint | opening => exact congrArg₂ _ rfl (ih hfull hrest)
    | playing path round =>
      have hfull' : ∀ rule ∈ (session.asked round.1).rules, rule.severity ≠ .ignore :=
        Registry.full_settle hfull session.made round.1
      refine congrArg₂ _ ?_ ?_
      · rw [Step.events, asked_recast]
        exact Round.events_recast hfull' hfirst
      · rw [Step.after, asked_recast]
        exact ih hfull' hrest

/-! ### Runs that come to their end -/

/-- A run with the given options and operands comes to its end, and it makes the given
reports, in this order. -/
structure Makes (tree : FileTree) (session : Session) (wishes : List Wish) (words : List Text)
    (reports : List Report) : Prop where
  /-- The run performs its trace. -/
  run : run tree (wishes.map Wish.word ++ words) session =
    concluded (forEach Event.perform (events tree (session.begunWith wishes words) words)
      (session.begunWith wishes words))
  /-- It comes to its end. -/
  ends : ∃ result, (Session.run tree (wishes.map Wish.word ++ words) session).result = .ok result
  /-- The reports are those in the trace. -/
  reports : Event.reports (events tree (session.begunWith wishes words) words) = reports

/-- **Rules do not interfere.** If a run in which no rule is ignored comes to its end, so
does the run with any other severities. It reports what the first run does on behalf of
rules that are not ignored now, in the same order and with the severities as they are now,
and it has the same to complain about. -/
theorem makes_recast {tree : FileTree} {session : Session} {wishes : List Wish}
    {words : List Text} {reports : List Report}
    (hwords : ∀ word ∈ words, Reading.ofWord word = .ok .operand)
    (hwishes : ∀ given, Wish.template given ∉ wishes)
    (hfull : ∀ rule ∈ session.rules, rule.severity ≠ .ignore)
    (hmakes : Makes tree session wishes words reports) (severity : Text → Severity) :
    let other : Session := { session with rules := session.rules.recast severity }
    Makes tree other wishes words
      ((reports.filter fun report => severity report.rule ≠ .ignore).map fun report =>
        { report with severity := severity report.rule }) ∧
    (run tree (wishes.map Wish.word ++ words) other).err =
      (run tree (wishes.map Wish.word ++ words) session).err := by
  intro other
  obtain ⟨-, ⟨result, hresult⟩, hreports⟩ := hmakes
  have hrun (session : Session) : run tree (wishes.map Wish.word ++ words) session =
      concluded (forEach Event.perform (events tree (session.begunWith wishes words) words)
        (session.begunWith wishes words)) := by
    rw [run_of_wishes wishes hwords, forEach_lintPath_eq]
  have hok : (forEach Event.perform (events tree (session.begunWith wishes words) words)
      (session.begunWith wishes words)).result = .ok () := by
    rw [hrun] at hresult
    exact ok_of_concluded hresult
  have htrace : events tree (other.begunWith wishes words) words =
      Event.under severity (events tree (session.begunWith wishes words) words) := by
    have hbegun : ∀ rule ∈ (session.begunWith wishes words).rules, rule.severity ≠ .ignore := hfull
    refine trace_recast hbegun fun fault hmem => ?_
    exact Event.settles_of_forEach hok _ hmem
  have htemplate : (other.begunWith wishes words).settings.template = defaultTemplate :=
    Wish.template_settings words hwishes
  obtain ⟨hends, herr⟩ := Event.forEach_under severity (t := other.begunWith wishes words) hok
    (fun h => h) htemplate
  rw [← htrace] at hends herr
  refine ⟨⟨hrun other, ?_, ?_⟩, ?_⟩
  · rw [hrun other]
    simp only [concluded, hends]
    exact ⟨_, rfl⟩
  · rw [htrace, Event.reports_under, hreports]
    rfl
  · rw [hrun other, hrun session]
    exact herr

/-- One of three rules is ignored and a warning becomes an error. -/
theorem makes_recast_one_ignored :
    let severity (name : Text) : Severity :=
      if name = "RequireSuiteDocumentation" then .ignore else .error
    let suite : Report :=
      ⟨1, 0, .warning, "No suite documentation", "RequireSuiteDocumentation", "/a.robot"⟩
    let test : Report :=
      ⟨3, 0, .error, "No testcase documentation", "RequireTestDocumentation", "/a.robot"⟩
    let steps : Report :=
      ⟨2, 0, .warning, "Too few steps (0) in test case", "TooFewTestSteps", "/a.robot"⟩
    Makes smallTree {} [] ["a.robot"] [suite, test, steps] ∧
      Makes smallTree { rules := Registry.standing.recast severity } [] ["a.robot"]
        [test, { steps with severity := .error }] := by
  intro severity suite test steps
  have hwords : ∀ word ∈ [("a.robot" : Text)], Reading.ofWord word = .ok .operand := by decide
  have hfull : ∀ rule ∈ ({} : Session).rules, rule.severity ≠ .ignore := by decide
  have hmakes : Makes smallTree {} [] ["a.robot"] [suite, test, steps] := by
    refine ⟨?_, ⟨1, by decide +kernel⟩, by decide +kernel⟩
    rw [run_of_wishes [] hwords, forEach_lintPath_eq]
  exact ⟨hmakes, (makes_recast hwords (by simp) hfull hmakes severity).1⟩

end Session

end SuiteLint
