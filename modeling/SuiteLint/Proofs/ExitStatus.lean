import Mathlib.Tactic
import SuiteLint.Proofs.ArgumentFiles
import SuiteLint.Proofs.Output

/-!
# Counts and the result of a run

A session counts what is reported, and the result of a run is read off the counts. Findings
are reported one by one, from many places, and a run may end in the middle of it, so what has
to be known is what one event does to the counts (`Event.counts_perform`). From it we get
what any part of a trace does (`Event.counts_forEach`): at every moment the counts are those of
the reports that were made since the counting began.

A run begins to count when it begins to lint (`Session.lintingStart`). So what earlier runs of
the session counted does not matter, and neither does how they ended.
-/

namespace SuiteLint

open SuiteLint.Action

/-! ### Counts -/

namespace Counts

/-- Every report is counted once. -/
theorem sum_tally (reports : List Report) :
    (tally reports).errors + (tally reports).warnings + (tally reports).others =
      reports.length := by
  induction reports with
  | nil => rfl
  | cons report reports ih =>
    have hone : (tally [report]).errors + (tally [report]).warnings + (tally [report]).others =
        1 := by
      rcases hseverity : report.severity <;> simp [tally, hseverity]
    rw [← List.singleton_append, tally_append, add_def, List.length_append, List.length_singleton]
    dsimp only
    omega

theorem errors_tally_eq_zero_iff {reports : List Report} :
    (tally reports).errors = 0 ↔ ∀ report ∈ reports, report.severity ≠ .error := by
  simp [tally, List.countP_eq_zero]

end Counts

namespace Event

theorem reports_append (events events' : List Event) :
    reports (events ++ events') = reports events ++ reports events' := List.filterMap_append

/-- The counts grow by the reports of some of the events, from the first one on, and by those of
all of them if nothing stops early. -/
def Counted (counts : Counts) (events : List Event) (outcome : Outcome Unit) : Prop :=
  ∃ made, made <+: events ∧
    outcome.session.counts = some (counts + Counts.tally (reports made)) ∧
    (outcome.result = .ok () → made = events)

/-- **An event is counted if it is a report**, unless nothing can be reported yet. -/
theorem counts_perform (event : Event) {session : Session} {counts : Counts}
    (h : session.counts = some counts) : Counted counts [event] (event.perform session) := by
  cases event with
  | complaint text => exact ⟨_, List.prefix_rfl, h, fun _ => rfl⟩
  | opening path => exact ⟨_, List.prefix_rfl, h, fun _ => rfl⟩
  | asking scope => exact ⟨_, List.prefix_rfl, h, fun _ => rfl⟩
  | givingUp fault => exact ⟨_, List.prefix_rfl, h, fun _ => rfl⟩
  | finding rule path remark =>
    rcases hheading : session.heading with _ | name
    · have heq := Session.report_of_nothingOpen (rule.report path remark) hheading
      have hperform := Session.reportRemark_of_fault heq
      refine ⟨[], List.nil_prefix, ?_, fun hok => ?_⟩
      · change (Session.reportRemark rule path remark session).session.counts = _
        rw [hperform]
        exact h
      · change (Session.reportRemark rule path remark session).result = _ at hok
        rw [hperform, if_neg (by simp [Fault.isPositional])] at hok
        cases hok
    · -- it is counted before it is shown, so also if it cannot be shown
      have heq := Session.report_eq (rule.report path remark) hheading
      refine ⟨_, List.prefix_rfl, ?_, fun _ => rfl⟩
      change (Session.reportRemark rule path remark session).session.counts = _
      rcases hrender : (rule.report path remark).render session.settings.template with fault | text
      · rw [hrender] at heq
        rw [Session.reportRemark_of_fault heq, h]
        rfl
      · rw [hrender] at heq
        rw [Session.reportRemark_of_ok heq, h]
        rfl

/-- **At every moment the counts are those of the reports that were made.** -/
theorem counts_forEach (events : List Event) {session : Session} {counts : Counts}
    (h : session.counts = some counts) :
    Counted counts events (forEach perform events session) := by
  induction events generalizing session counts with
  | nil => exact ⟨[], List.prefix_rfl, h, fun _ => rfl⟩
  | cons event events ih =>
    obtain ⟨made, hmade, hcounts, hall⟩ := event.counts_perform h
    rcases heq : event.perform session with ⟨out, err, after, stop | _⟩
    · rw [heq] at hcounts
      rw [forEach, andThen_of_error heq]
      refine ⟨made, hmade.trans ?_, hcounts, fun hok => by cases hok⟩
      exact List.prefix_append [event] events
    · rw [heq] at hcounts hall
      obtain rfl := hall rfl
      obtain ⟨more, hmore, hcounts', hall'⟩ := ih hcounts
      rw [forEach, andThen_of_ok heq]
      refine ⟨event :: more, (List.prefix_cons_inj event).mpr hmore, ?_, fun hok => ?_⟩
      · rw [← List.singleton_append, reports_append, Counts.tally_append, ← Counts.add_assoc]
        exact hcounts'
      · rw [hall' hok]

end Event

namespace Session

/-! ### The result -/

theorem status_le (errors : Nat) : status errors ≤ 255 := by
  unfold status
  split <;> omega

theorem status_ne (errors : Nat) : status errors ≠ 254 := by
  unfold status
  split <;> omega

theorem status_eq_zero_iff {errors : Nat} : status errors = 0 ↔ errors = 0 := by
  unfold status
  split <;> omega

theorem status_mono {errors errors' : Nat} (h : errors ≤ errors') :
    status errors ≤ status errors' := by
  unfold status
  split <;> split <;> omega

/-- The session in which a run begins to lint, if it comes to that: its arguments can be taken
up, and they ask for nothing else. -/
def lintingStart (tree : FileTree) (arguments : List Text) (session : Session) : Option Session :=
  let taken := takeArguments tree nestingBound {} arguments session
  match taken.result with
  | .error _ => none
  | .ok settings =>
    if settings.version || settings.list || settings.describe then none
    else some { taken.session with settings, counts := some {} }

/-- From there on it performs the trace of its paths. -/
theorem run_of_lintingStart {tree : FileTree} {arguments : List Text} {session start : Session}
    (h : lintingStart tree arguments session = some start) :
    start.counts = some {} ∧
      ∃ out err,
        let linting := concluded
          (forEach Event.perform (events tree start start.settings.paths) start)
        run tree arguments session =
          ⟨out ++ linting.out, err ++ linting.err, linting.session, linting.result⟩ := by
  unfold lintingStart at h
  rcases htake : takeArguments tree nestingBound {} arguments session with
    ⟨out, err, after, stop | settings⟩
  · rw [htake] at h
    cases h
  · rw [htake] at h
    dsimp only at h
    split at h
    · cases h
    · next hasks =>
      obtain rfl := Option.some.inj h
      refine ⟨rfl, out, err, ?_⟩
      have hlints : settings.Lints := by
        simpa [Settings.Lints, and_assoc] using hasks
      rw [run_eq, andThen_of_ok htake, proceed_of_lints hlints]

/-- **A run counts the reports that it makes**, also if it does not come to its end. -/
theorem counts_run {tree : FileTree} {arguments : List Text} {session start : Session}
    (h : lintingStart tree arguments session = some start) :
    ∃ made, made <+: events tree start start.settings.paths ∧
      (run tree arguments session).session.counts = some (Counts.tally (Event.reports made)) ∧
      ∀ result, (run tree arguments session).result = .ok result →
        made = events tree start start.settings.paths ∧
          result = status (Counts.tally (Event.reports made)).errors := by
  obtain ⟨hcounts, out, err, hrun⟩ := run_of_lintingStart h
  obtain ⟨made, hmade, htally, hall⟩ :=
    Event.counts_forEach (events tree start start.settings.paths) hcounts
  rw [Counts.zero_add] at htally
  rw [hrun]
  refine ⟨made, hmade, htally, fun result hresult => ?_⟩
  dsimp only [concluded] at hresult
  rw [htally, Option.getD_some] at hresult
  rcases hlint : (forEach Event.perform (events tree start start.settings.paths) start).result with
    stop | _
  · rw [hlint] at hresult
    cases hresult
  · rw [hlint] at hresult
    exact ⟨hall hlint, (Except.ok.inj hresult).symm⟩

/-- **The result of a run that lints and comes to its end.** In whatever state the session is, the
run performs the trace of its paths, and the counts afterwards are those of the reports in this
trace, every one of which is counted once. The result is the number of errors if it is below 254,
and 255 otherwise. So it is zero exactly if no error is reported, it is at most 255 and never 254,
and a run with more errors has no smaller result. -/
theorem run_result {tree : FileTree} {arguments : List Text} {session start : Session}
    {result : Nat} (hstart : lintingStart tree arguments session = some start)
    (hresult : (run tree arguments session).result = .ok result) :
    let trace := events tree start start.settings.paths
    let reports := Event.reports trace
    let counts := Counts.tally reports
    (run tree arguments session).session = (forEach Event.perform trace start).session ∧
    (run tree arguments session).session.counts = some counts ∧
    counts.errors + counts.warnings + counts.others = reports.length ∧
    result = (if counts.errors < 254 then counts.errors else 255) ∧
    (result = 0 ↔ ∀ report ∈ reports, report.severity ≠ .error) ∧
    result ≤ 255 ∧ result ≠ 254 ∧
    ∀ {tree' : FileTree} {arguments' : List Text} {session' start' : Session} {result' : Nat},
      lintingStart tree' arguments' session' = some start' →
      (run tree' arguments' session').result = .ok result' →
      counts.errors ≤
        (Counts.tally (Event.reports (events tree' start' start'.settings.paths))).errors →
      result ≤ result' := by
  intro trace reports counts
  obtain ⟨-, out, err, hrun⟩ := run_of_lintingStart hstart
  obtain ⟨made, -, hcounts, hreturns⟩ := counts_run hstart
  obtain ⟨rfl, rfl⟩ := hreturns result hresult
  refine ⟨by rw [hrun]; rfl, hcounts, Counts.sum_tally reports, rfl, ?_, status_le _,
    status_ne _, ?_⟩
  · rw [status_eq_zero_iff]
    exact Counts.errors_tally_eq_zero_iff
  · intro tree' arguments' session' start' result' hstart' hresult' herrors
    obtain ⟨made', -, -, hreturns'⟩ := counts_run hstart'
    obtain ⟨rfl, rfl⟩ := hreturns' result' hresult'
    exact status_mono herrors

/-- What was counted in a run before is not counted again. -/
theorem run_result_after_run :
    let before := (run smallTree ["a.robot", "a.robot"] {}).session
    let after := run smallTree ["a.robot"] before
    before.counts = some { errors := 2, warnings := 4 } ∧
      after.session.counts = some { errors := 1, warnings := 2 } ∧ after.result = .ok 1 ∧
      ∃ start, lintingStart smallTree ["a.robot"] before = some start ∧
        (Event.reports (events smallTree start start.settings.paths)).length = 3 := by
  intro before after
  obtain ⟨hbefore, hafter, hresult, hsome⟩ : before.counts = some { errors := 2, warnings := 4 } ∧
      after.session.counts = some { errors := 1, warnings := 2 } ∧ after.result = .ok 1 ∧
      (lintingStart smallTree ["a.robot"] before).isSome = true := by decide +kernel
  have hstart := (Option.some_get hsome).symm
  obtain ⟨-, htally, hsum, -⟩ := run_result hstart hresult
  refine ⟨hbefore, hafter, hresult, _, hstart, ?_⟩
  rw [← hsum, ← Option.some.inj (hafter.symm.trans htally)]
  rfl

end Session

end SuiteLint
