import Mathlib.Tactic
import SuiteLint.Proofs.Placement
import SuiteLint.Proofs.Runs

/-!
# The trace of linting

Linting prints as it goes along, and it may give up on the way. What it is going to do
can be told beforehand, from the rules and the files alone, as a list of *events*: a file
is begun, something is complained about, the rules of a scope are asked for, a rule reports
a finding, a verdict is a fault. This list is the trace (`Session.events`), and linting is
to perform it, event by event (`Session.forEach_lintPath_eq`). The equation holds whether or
not linting gives up, since nothing is performed after an event that ends it.

The trace is found in two stages. Which files are begun, and which rounds are played for
them, does not depend on the rules at all; these are the *steps* of linting
(`Session.steps`). What the steps lead to is then told from the rules, which may become
others with each round (`Session.trace`). If there is nothing to choose between them, each
step can be looked at on its own (`Session.trace_of_coherent`).

So a statement about what a run reports is one about a list, and what is left to say about
actions is what it means to perform an event.

The reports among the events of a file stand in a fixed order, which `Registry.reports`
spells out: those on the file as a whole, those of the test cases one after the other, and
those of the keywords one after the other.
-/

namespace SuiteLint

open SuiteLint.Action

/-! ### Events -/

/-- One thing that linting does. -/
inductive Event
  /-- Something is said on standard error. -/
  | complaint (text : Text)
  /-- A file is begun. -/
  | opening (path : Text)
  /-- The rules of a scope are asked for. -/
  | asking (scope : Scope)
  /-- A rule has something to say about the file with the given absolute path. -/
  | finding (rule : Rule) (path : Text) (remark : Remark)
  /-- A rule gives up. -/
  | givingUp (fault : Fault)

namespace Event

/-- To do what an event says. -/
def perform : Event → Action Unit
  | complaint text => Action.complain text
  | opening path => Session.openFile path
  | asking scope => Action.update fun session => session.asked scope
  | finding rule path remark => Session.reportRemark rule path remark
  | givingUp fault => Action.fail fault

/-- The report that is made, if one is. -/
def report? : Event → Option Report
  | finding rule path remark => some (rule.report path remark)
  | _ => none

/-- The reports among events. -/
def reports (events : List Event) : List Report := events.filterMap report?

/-- What a verdict on a file leads to. -/
def ofVerdict (path : Text) : Rule × Verdict → List Event
  | (rule, .ok remarks) => remarks.map (finding rule path)
  | (rule, .error fault) => [givingUp (fault.ofRule rule.name)]

theorem maintains_perform {P : Session → Prop} (hP : Session.OutlastsLinting P) (event : Event) :
    Maintains P event.perform := by
  cases event with
  | complaint text => exact maintains_complain text
  | opening path => exact maintains_update fun session => hP.heading session _
  | asking scope => exact maintains_update fun session => hP.asked session scope
  | finding rule path remark => exact hP.toOutlastsReporting.reportRemark rule path remark
  | givingUp fault => exact maintains_fail fault

theorem forEach_ofVerdict (path : Text) (application : Rule × Verdict) :
    forEach perform (ofVerdict path application) = Session.reportVerdict path application := by
  obtain ⟨rule, fault | remarks⟩ := application
  · exact andThen_done (Action.fail _)
  · exact forEach_map perform (finding rule path) remarks

end Event

/-! ### Steps -/

/-- What a round on a file leads to, with the given rules. -/
def Round.events (rules : Registry) (path : Text) (round : Round) : List Event :=
  .asking round.1 :: (round.applications rules).flatMap (Event.ofVerdict path)

/-- A step of linting, which may be a whole round. -/
inductive Step
  /-- Something is said on standard error. -/
  | complaint (text : Text)
  /-- A file is begun. -/
  | opening (path : Text)
  /-- A round is played on the file with the given absolute path. -/
  | playing (path : Text) (round : Round)

namespace Step

/-- To take a step. -/
def perform : Step → Action Unit
  | complaint text => Action.complain text
  | opening path => Session.openFile path
  | playing path round => Session.playRound path round

/-- What a step leads to in a session. -/
def events (session : Session) : Step → List Event
  | complaint text => [.complaint text]
  | opening path => [.opening path]
  | playing path round => round.events (session.asked round.1).rules path

/-- The session after a step, as far as its rules are concerned. -/
def after (session : Session) : Step → Session
  | playing _ round => session.asked round.1
  | _ => session

/-- To take a step is to perform what it leads to. -/
theorem perform_eq (step : Step) (session : Session) :
    step.perform session = forEach Event.perform (step.events session) session := by
  cases step with
  | complaint text => exact congrFun (andThen_done (Action.complain text)).symm session
  | opening path => exact congrFun (andThen_done (Session.openFile path)).symm session
  | playing path round =>
    have hverdicts : forEach Event.perform
        ((round.applications (session.asked round.1).rules).flatMap (Event.ofVerdict path)) =
          forEach (Session.reportVerdict path)
            (round.applications (session.asked round.1).rules) := by
      rw [forEach_flatMap]
      exact congrArg (forEach · _) (funext (Event.forEach_ofVerdict path))
    rw [events, Round.events, forEach, hverdicts]
    rfl

/-- What becomes of the rules in a step does not depend on how it ends. -/
theorem rules_perform (step : Step) (session : Session) :
    (step.perform session).session.rules = (step.after session).rules ∧
      (step.perform session).session.made = (step.after session).made := by
  cases step with
  | complaint | opening => exact ⟨rfl, rfl⟩
  | playing path round =>
    have hreporting : Session.OutlastsReporting fun other =>
        other.rules = (session.asked round.1).rules ∧ other.made = (session.asked round.1).made :=
      ⟨fun _ _ h => h, fun _ _ h => h⟩
    exact maintains_forEach (hreporting.reportVerdict path) _ (session.asked round.1) ⟨rfl, rfl⟩

theorem asked_congr {s t : Session} (h : s.rules = t.rules ∧ s.made = t.made) (scope : Scope) :
    (s.asked scope).rules = (t.asked scope).rules ∧
      (s.asked scope).made = (t.asked scope).made := by
  simp only [Session.asked, h.1, h.2, and_self]

/-- A step looks at nothing in the session but its rules, and at which of them were made. -/
theorem events_congr {s t : Session} (h : s.rules = t.rules ∧ s.made = t.made) (step : Step) :
    step.events s = step.events t := by
  cases step with
  | complaint | opening => rfl
  | playing path round => rw [events, events, (asked_congr h round.1).1]

theorem after_congr {s t : Session} (h : s.rules = t.rules ∧ s.made = t.made) (step : Step) :
    (step.after s).rules = (step.after t).rules ∧ (step.after s).made = (step.after t).made := by
  cases step with
  | complaint | opening => exact h
  | playing path round => exact asked_congr h round.1

end Step

namespace Session

/-- **What steps lead to**, one after the other. -/
def trace (session : Session) : List Step → List Event
  | [] => []
  | step :: steps => step.events session ++ trace (step.after session) steps

theorem trace_congr {s t : Session} (h : s.rules = t.rules ∧ s.made = t.made)
    (steps : List Step) : s.trace steps = t.trace steps := by
  induction steps generalizing s t with
  | nil => rfl
  | cons step steps ih => rw [trace, trace, Step.events_congr h, ih (Step.after_congr h step)]

/-- **To take steps is to perform what they lead to.** -/
theorem forEach_step_eq (steps : List Step) (session : Session) :
    forEach Step.perform steps session = forEach Event.perform (session.trace steps) session := by
  induction steps generalizing session with
  | nil => rfl
  | cons step steps ih =>
    rw [forEach, trace, forEach_append]
    refine andThen_congr (step.perform_eq session) fun _ => ?_
    -- what was counted and shown meanwhile does not matter to the rest of the trace
    rw [ih, trace_congr (step.rules_perform session)]

/-- With nothing to choose, what a step leads to depends on the rules alone. -/
theorem events_of_coherent {s t : Session} (hrules : s.rules = t.rules)
    (hcoherent : t.rules.Coherent) (step : Step) : step.events s = step.events t := by
  cases step with
  | complaint | opening => rfl
  | playing path round =>
    rw [Step.events, Step.events, rules_asked_of_coherent hcoherent,
      rules_asked_of_coherent (hrules ▸ hcoherent), hrules]

theorem rules_after_of_coherent {session : Session} (h : session.rules.Coherent) (step : Step) :
    (step.after session).rules = session.rules := by
  cases step with
  | complaint | opening => rfl
  | playing path round => exact rules_asked_of_coherent h round.1

/-- **With nothing to choose, each step can be looked at on its own.** -/
theorem trace_of_coherent {session : Session} (h : session.rules.Coherent) (steps : List Step) :
    session.trace steps = steps.flatMap (Step.events session) := by
  suffices hall : ∀ s : Session, s.rules = session.rules →
      s.trace steps = steps.flatMap (Step.events session) from hall session rfl
  induction steps with
  | nil => exact fun s _ => rfl
  | cons step steps ih =>
    intro s hs
    rw [trace, List.flatMap_cons, events_of_coherent hs h,
      ih _ ((rules_after_of_coherent (hs ▸ h) step).trans hs)]

/-- With nothing to choose, the rules that find something are those of the session. -/
theorem mem_rules_of_finding {session : Session} (h : session.rules.Coherent) {steps : List Step}
    {rule : Rule} {path : Text} {remark : Remark}
    (hmem : Event.finding rule path remark ∈ session.trace steps) : rule ∈ session.rules := by
  rw [trace_of_coherent h] at hmem
  obtain ⟨step, -, hmem⟩ := List.mem_flatMap.mp hmem
  cases step with
  | complaint | opening => simp [Step.events] at hmem
  | playing path round =>
    rw [Step.events, rules_asked_of_coherent h, Round.events] at hmem
    obtain ⟨⟨other, fault | remarks⟩, happlication, hmem⟩ :=
      List.mem_flatMap.mp ((List.mem_cons.mp hmem).resolve_left (by simp))
    · simp [Event.ofVerdict] at hmem
    · obtain ⟨_, -, heq⟩ := List.mem_map.mp hmem
      obtain ⟨active, hactive, heq'⟩ := List.mem_map.mp happlication
      cases heq
      obtain rfl : active = rule := congrArg Prod.fst heq'
      exact (Registry.mem_of_mem_active hactive).1

theorem trace_flatMap {α : Type} {session : Session} (h : session.rules.Coherent)
    (f : α → List Step) (as : List α) :
    session.trace (as.flatMap f) = as.flatMap fun a => session.trace (f a) := by
  simp only [trace_of_coherent h, List.flatMap_assoc]

end Session

/-! ### The trace of a file -/

theorem Document.mem_allBlocks {document : Document} {kind : BlockKind} {block : Block}
    (h : block ∈ document.blocks kind) : block ∈ document.allBlocks := by
  obtain ⟨table, htable, hblock⟩ := List.mem_flatMap.mp h
  exact List.mem_flatMap.mpr ⟨table, List.mem_of_mem_filter htable, hblock⟩

/-- The scope of rules on blocks. -/
def BlockKind.scope : BlockKind → Scope
  | test => .test
  | keyword => .keyword

/-- A round is played on the document as a whole or on one of its blocks. -/
theorem Document.cases_of_mem_rounds {document : Document} {round : Round}
    (h : round ∈ document.rounds) :
    ((round.1 ≠ .test ∧ round.1 ≠ .keyword) ∧ round.2 = .document document) ∨
      ∃ kind, ∃ block ∈ document.blocks kind, round = (kind.scope, .block document block) := by
  have hdocument {scope : Scope} (hscope : scope ≠ .test ∧ scope ≠ .keyword)
      (hround : round = (scope, .document document)) :
      (round.1 ≠ .test ∧ round.1 ≠ .keyword) ∧ round.2 = .document document := by
    rw [hround]
    exact ⟨hscope, rfl⟩
  have hblocks (kind : BlockKind)
      (hmem : round ∈ (document.blocks kind).map fun block =>
        (kind.scope, .block document block)) :
      ∃ kind, ∃ block ∈ document.blocks kind, round = (kind.scope, .block document block) := by
    obtain ⟨block, hblock, rfl⟩ := List.mem_map.mp hmem
    exact ⟨kind, block, hblock, rfl⟩
  rcases List.mem_append.mp h with h | hkeyword
  · rcases List.mem_append.mp h with hgeneral | h
    · exact .inl (hdocument (by decide) (List.mem_singleton.mp hgeneral))
    · split at h
      · rcases List.mem_cons.mp h with hsuite | htest
        · exact .inl (hdocument (by decide) hsuite)
        · exact .inr (hblocks .test htest)
      · exact .inl (hdocument (by decide) (List.mem_singleton.mp h))
  · exact .inr (hblocks .keyword hkeyword)

namespace Registry

/-- What applying rules to a document leads to, if the rules are the same in all rounds. -/
def events (rules : Registry) (document : Document) : List Event :=
  document.rounds.flatMap (Round.events rules document.path)

end Registry

/-- A rule gives up exactly where a verdict is a fault. -/
theorem Registry.givingUp_mem_events {rules : Registry} {document : Document} {fault : Fault} :
    Event.givingUp fault ∈ rules.events document ↔
      ∃ application ∈ rules.applications document, ∃ cause, application.2 = .error cause ∧
        fault = cause.ofRule application.1.name := by
  have hverdict (application : Rule × Verdict) :
      Event.givingUp fault ∈ Event.ofVerdict document.path application ↔
        ∃ cause, application.2 = .error cause ∧ fault = cause.ofRule application.1.name := by
    obtain ⟨rule, cause | remarks⟩ := application <;> simp [Event.ofVerdict]
  simp only [events, applications, Round.events, List.mem_flatMap, List.mem_cons, reduceCtorEq,
    false_or, hverdict]
  tauto

/-- What a rule reports about a file. -/
def Rule.reports (rule : Rule) (path : Text) : Verdict → List Report
  | .ok remarks => remarks.map (rule.report path)
  | .error _ => []

namespace Registry

/-- The reports of the rules of a scope on a document as a whole. -/
def reportsOn (rules : Registry) (scope : Scope) (document : Document) : List Report :=
  (rules.active scope).flatMap fun rule =>
    rule.reports document.path (rule.check.onDocument document)

/-- The reports of the rules of a scope on blocks: all those on the first block, then all
those on the second, and so on. -/
def reportsOnEach (rules : Registry) (scope : Scope) (document : Document)
    (blocks : List Block) : List Report :=
  blocks.flatMap fun block => (rules.active scope).flatMap fun rule =>
    rule.reports document.path (rule.check.onBlock document block)

/-- The reports of rules on a document: of the general rules first, then, for a suite, of
the rules on suites and of the rules on test cases, for any other file of the rules on
resources, and at last of the rules on keywords. -/
def reports (rules : Registry) (document : Document) : List Report :=
  rules.reportsOn .general document ++
    (if document.isSuite then
      rules.reportsOn .suite document ++ rules.reportsOnEach .test document document.testCases
    else rules.reportsOn .resource document) ++
    rules.reportsOnEach .keyword document document.keywords

/-- The reports on a document are those of its verdicts. -/
theorem reports_eq (rules : Registry) (document : Document) :
    rules.reports document = (rules.applications document).flatMap fun application =>
      application.1.reports document.path application.2 := by
  rw [applications_eq]
  unfold reports reportsOn reportsOnEach onDocument onBlocks
  split <;> simp only [List.flatMap_append, List.flatMap_map, List.flatMap_assoc]

/-- Every report is made by some rule, of a remark in its verdict in a round of its scope. -/
theorem verdict_of_mem_reports {rules : Registry} {document : Document} {report : Report}
    (h : report ∈ rules.reports document) :
    ∃ rule ∈ rules, ∃ round ∈ document.rounds, rule.scope = round.1 ∧
      ∃ remarks, rule.check.on round.2 = .ok remarks ∧
        ∃ remark ∈ remarks, report = rule.report document.path remark := by
  rw [reports_eq] at h
  obtain ⟨application, happlication, hreport⟩ := List.mem_flatMap.mp h
  obtain ⟨round, hround, happlication⟩ := List.mem_flatMap.mp happlication
  obtain ⟨rule, hactive, rfl⟩ := List.mem_map.mp happlication
  obtain ⟨hrule, hscope⟩ := List.mem_filter.mp (List.mem_of_mem_filter hactive)
  refine ⟨rule, hrule, round, hround, of_decide_eq_true hscope, ?_⟩
  rcases hverdict : rule.check.on round.2 with fault | remarks
  · rw [hverdict] at hreport
    cases hreport
  · rw [hverdict] at hreport
    obtain ⟨remark, hremark, rfl⟩ := List.mem_map.mp hreport
    exact ⟨remarks, rfl, remark, hremark, rfl⟩

end Registry

theorem Event.reports_ofVerdict (path : Text) (application : Rule × Verdict) :
    Event.reports (Event.ofVerdict path application) =
      application.1.reports path application.2 := by
  obtain ⟨rule, fault | remarks⟩ := application
  · rfl
  · simp only [Event.reports, Event.ofVerdict, Rule.reports, List.filterMap_map]
    exact congrFun List.filterMap_eq_map' remarks

/-- The reports in a round are those of its verdicts. -/
theorem Round.reports_events (rules : Registry) (path : Text) (round : Round) :
    Event.reports (round.events rules path) =
      (round.applications rules).flatMap fun application =>
        application.1.reports path application.2 := by
  rw [Round.events, Event.reports, List.filterMap_cons_none rfl, List.filterMap_flatMap]
  exact List.flatMap_congr fun application _ => Event.reports_ofVerdict path application

namespace Registry

theorem reports_events (rules : Registry) (document : Document) :
    Event.reports (rules.events document) = rules.reports document := by
  rw [reports_eq, events, Event.reports, List.filterMap_flatMap, applications, List.flatMap_assoc]
  exact List.flatMap_congr fun round _ => Round.reports_events rules document.path round

end Registry

namespace Session

/-- The steps in which a file is linted. -/
def fileSteps (tree : FileTree) (path : Text) : List Step :=
  .opening path :: .complaint (Document.load tree path).2 ::
    (Document.load tree path).1.rounds.map (.playing (Document.load tree path).1.path)

theorem examine_eq_steps (tree : FileTree) (path : Text) :
    examine tree path = forEach Step.perform (fileSteps tree path) := by
  rw [fileSteps, forEach, forEach, forEach_map]
  rfl

/-- What linting a file leads to in a session, which is nothing if it is not accepted. -/
def eventsOf (tree : FileTree) (session : Session) (path : Text) : List Event :=
  if session.accepts path then session.trace (fileSteps tree path) else []

theorem lintFile_eq_events (tree : FileTree) (path : Text) (session : Session) :
    lintFile tree path session = forEach Event.perform (eventsOf tree session path) session := by
  rw [lintFile_eq, eventsOf]
  split
  · rw [examine_eq_steps, forEach_step_eq]
  · rfl

/-- The reports that are made in a file. -/
def reportsIn (tree : FileTree) (rules : Registry) (path : Text) : List Report :=
  rules.reports (Document.load tree path).1

/-- A file is begun, something may be complained about, and then the rest follows. -/
theorem forEach_opening (path complaint : Text) (events : List Event) (session : Session) :
    forEach Event.perform (.opening path :: .complaint complaint :: events) session =
      let rest := forEach Event.perform events (session.opened path)
      ⟨rest.out, complaint ++ rest.err, rest.session, rest.result⟩ :=
  rfl

/-- What linting a file leads to, if there is nothing to choose. -/
theorem trace_fileSteps {session : Session} (h : session.rules.Coherent) (tree : FileTree)
    (path : Text) :
    session.trace (fileSteps tree path) =
      .opening path :: .complaint (Document.load tree path).2 ::
        session.rules.events (Document.load tree path).1 := by
  have hround (path : Text) (round : Round) :
      (Step.playing path round).events session = round.events session.rules path := by
    rw [Step.events, rules_asked_of_coherent h]
  rw [trace_of_coherent h, fileSteps, List.flatMap_cons, List.flatMap_cons, List.flatMap_map]
  simp only [hround]
  rfl

theorem reports_fileSteps {session : Session} (h : session.rules.Coherent) (tree : FileTree)
    (path : Text) :
    Event.reports (session.trace (fileSteps tree path)) = reportsIn tree session.rules path := by
  rw [trace_fileSteps h]
  exact Registry.reports_events session.rules (Document.load tree path).1

/-! ### The trace of paths -/

/-- The files that are linted for a path, in order. -/
def filesAt (tree : FileTree) (session : Session) (path : Text) : List Text :=
  match tree.lookup path with
  | .error _ => []
  | .ok (.file _ _) => [path].filter session.accepts
  | .ok (.folder name entries) =>
    (filesUnder session.settings.recursive path (.folder name entries)).filter session.accepts

/-- The steps in which what a path leads to is linted. -/
def pathSteps (tree : FileTree) (session : Session) (path : Text) : List Step :=
  match tree.lookup path with
  | .error _ => [.complaint (missingComplaint path)]
  | .ok _ => (filesAt tree session path).flatMap (fileSteps tree)

/-- The steps in which what paths lead to is linted, one path after the other. -/
def steps (tree : FileTree) (session : Session) (paths : List Text) : List Step :=
  paths.flatMap (pathSteps tree session)

/-- **The trace of linting paths.** -/
def events (tree : FileTree) (session : Session) (paths : List Text) : List Event :=
  session.trace (steps tree session paths)

theorem pathSteps_of_frame (tree : FileTree) {s t : Session} (h : s.frame = t.frame) :
    pathSteps tree s = pathSteps tree t := by
  change pathSteps tree s.frame = pathSteps tree t.frame
  rw [h]

theorem lintPath_eq_steps (tree : FileTree) (path : Text) (session : Session) :
    lintPath tree path session =
      forEach Step.perform (pathSteps tree session path) session := by
  have hfiles (files : List Text) : forEach (lintFile tree) files session =
      forEach Step.perform ((files.filter session.accepts).flatMap (fileSteps tree)) session := by
    have hexamine : examine tree = fun file => forEach Step.perform (fileSteps tree file) :=
      funext (examine_eq_steps tree)
    rw [forEach_lintFile, forEach_flatMap, hexamine]
  unfold lintPath pathSteps filesAt
  rcases tree.lookup path with obstacle | ⟨name, content⟩ | ⟨name, entries⟩
  · exact congrFun (andThen_done (Action.complain (missingComplaint path))).symm session
  · have hfile : lintFile tree path session = forEach (lintFile tree) [path] session :=
      congrFun (andThen_done (lintFile tree path)).symm session
    exact hfile.trans (hfiles [path])
  · exact hfiles _

/-- **Linting is to perform the trace**, whether it comes to its end or not. -/
theorem forEach_lintPath_eq (tree : FileTree) (paths : List Text) (session : Session) :
    forEach (lintPath tree) paths session =
      forEach Event.perform (events tree session paths) session := by
  rw [events, ← forEach_step_eq, steps, forEach_flatMap]
  refine forEach_congr ((outlastsLinting_frame session.frame).lintPath tree)
    (fun path other hother => ?_) paths rfl
  rw [lintPath_eq_steps, pathSteps_of_frame tree hother]

/-- The reports in all files that paths lead to, in order. -/
def reported (tree : FileTree) (session : Session) (paths : List Text) : List Report :=
  (paths.flatMap (filesAt tree session)).flatMap (reportsIn tree session.rules)

/-- The reports of a trace are those in the files that are linted, if there is nothing to
choose between the rules. -/
theorem reports_events {session : Session} (h : session.rules.Coherent) (tree : FileTree)
    (paths : List Text) :
    Event.reports (events tree session paths) = reported tree session paths := by
  rw [events, steps, trace_flatMap h, Event.reports, List.filterMap_flatMap, reported,
    List.flatMap_assoc]
  refine List.flatMap_congr fun path _ => ?_
  unfold pathSteps
  rcases hlookup : tree.lookup path with obstacle | entry
  · simp [filesAt, hlookup, trace, Step.events, Event.report?]
  · simp only [trace_flatMap h, List.filterMap_flatMap]
    exact List.flatMap_congr fun file _ => reports_fileSteps h tree file

end Session

end SuiteLint
