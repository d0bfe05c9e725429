import Mathlib.Tactic
import SuiteLint.Proofs.Safety
import SuiteLint.Proofs.Trace

/-!
# What a run prints

The name of a file is shown before the first finding in it. While a run goes on, this is
kept in mind as a name that is still to be shown, which a file sets and its first finding
clears, and the counts go up finding by finding. What comes of it has a simple form, with
no such memory: a run prints one *block* for each file it lints, and a block is empty if
nothing was found in the file, and otherwise the name of the file and one line for each
finding (`Session.block`). Beside it stands what the run says on standard error, path by
path (`Session.complaintsAt`), and what it counts (`Counts.tally`).

An action of linting *yields* a text on each channel and reports (`Session.Yields`) if it
does so whatever was counted before and whatever name was still to be shown. This is closed
under one action after the other, so it is enough to look at a single file
(`Session.yields_fileSteps`), and there at the findings one by one
(`Event.forEach_findings`).

All this is about runs that do not give up. These are told from the trace alone: no rule
gives up, and the findings can be shown in the given template (`Session.Quiet`). Two rules
pass over some faults of the template; their findings are counted, but there is no line
for them.
-/

namespace SuiteLint

open SuiteLint.Action

/-! ### Counting -/

namespace Counts

instance : Add Counts where
  add a b := ⟨a.errors + b.errors, a.warnings + b.warnings, a.others + b.others⟩

/-- How many reports of each severity there are. -/
def tally (reports : List Report) : Counts where
  errors := reports.countP (·.severity = .error)
  warnings := reports.countP (·.severity = .warning)
  others := reports.countP fun report => report.severity ≠ .error ∧ report.severity ≠ .warning

theorem add_def (a b : Counts) :
    a + b = ⟨a.errors + b.errors, a.warnings + b.warnings, a.others + b.others⟩ := rfl

theorem zero_add (counts : Counts) : {} + counts = counts := by
  simp only [add_def, Nat.zero_add]

theorem add_assoc (a b c : Counts) : a + b + c = a + (b + c) := by
  simp only [add_def, Nat.add_assoc]

theorem tally_append (reports reports' : List Report) :
    tally (reports ++ reports') = tally reports + tally reports' := by
  simp only [tally, add_def, List.countP_append]

/-- One more finding is counted. -/
theorem add_severity (counts : Counts) (report : Report) :
    counts.add report.severity = counts + tally [report] := by
  rcases hseverity : report.severity <;>
    simp [Counts.add, tally, add_def, hseverity]

end Counts

/-! ### Findings -/

/-- A finding as a line, or nothing if the template cannot be filled in. -/
def Report.shown (template : Text) (report : Report) : Text :=
  match report.render template with
  | .ok text => Text.line text
  | .error _ => []

/-- The name that is still to be shown, as a line. -/
def headingLine : Option Text → Text
  | none => []
  | some name => Text.line ("+ " ++ name)

/-- The findings in a file as they are printed, after the name that is to be shown. -/
def shownUnder (name : Option Text) (template : Text) (reports : List Report) : Text :=
  if reports.isEmpty then [] else headingLine name ++ reports.flatMap (Report.shown template)

theorem shownUnder_none (template : Text) (reports : List Report) :
    shownUnder none template reports = reports.flatMap (Report.shown template) := by
  cases reports with
  | nil => rfl
  | cons report reports => rfl

namespace Session

/-- **What a report does.** It shows the name that is still to be shown and is counted, and
then there is a line for it if the template can be filled in. -/
theorem report_eq (report : Report) {session : Session} {name : Option Text}
    (hheading : session.heading = some name) :
    Session.report report session =
      ⟨headingLine name ++ report.shown session.settings.template, [],
        { session with heading := some none,
                       counts := some (session.counts.getD {} + Counts.tally [report]) },
        ((report.render session.settings.template).mapError .fault).map fun _ => ()⟩ := by
  have hshow : showHeading session =
      ⟨headingLine name, [], { session with heading := some none }, .ok ()⟩ := by
    obtain ⟨rules, made, extensions, settings, _, _, input, bound⟩ := session
    obtain rfl : _ = some name := hheading
    rcases name with _ | name
    · rfl
    · exact congrArg (Outcome.mk · _ _ _) (List.append_nil _)
  have hcount : count report.severity { session with heading := some none } =
      ⟨[], [], { session with
        heading := some none
        counts := some (session.counts.getD {} + Counts.tally [report]) }, .ok ()⟩ := by
    simp only [count, update, Counts.add_severity]
  have hprint (heading : Option (Option Text)) (counts : Option Counts) :
      andThen current (fun session =>
        andThen (ofExcept (report.render session.settings.template)) fun text =>
          Action.print (Text.line text)) { session with heading, counts } =
        ⟨report.shown session.settings.template, [], { session with heading, counts },
          ((report.render session.settings.template).mapError .fault).map fun _ => ()⟩ := by
    rw [andThen_of_ok (show current { session with heading, counts } = _ from rfl), Report.shown]
    rcases report.render session.settings.template with fault | text <;> rfl
  have hsteps : Session.report report =
      andThen showHeading fun _ => andThen (count report.severity) fun _ =>
        andThen current fun session =>
          andThen (ofExcept (report.render session.settings.template)) fun text =>
            Action.print (Text.line text) := rfl
  rw [hsteps, andThen_of_ok hshow, andThen_of_ok hcount, hprint]
  rfl

/-- Nothing can be reported before a file was begun. -/
theorem report_of_nothingOpen (report : Report) {session : Session}
    (hheading : session.heading = none) :
    Session.report report session = ⟨[], [], session, .error (.fault .nothingOpen)⟩ := by
  obtain ⟨rules, made, extensions, settings, counts, _, input, bound⟩ := session
  obtain rfl : _ = none := hheading
  rfl

theorem reportRemark_of_ok {rule : Rule} {path : Text} {remark : Remark}
    {session after : Session} {out err : Text}
    (h : Session.report (rule.report path remark) session = ⟨out, err, after, .ok ()⟩) :
    reportRemark rule path remark session = ⟨out, err, after, .ok ()⟩ := by
  unfold reportRemark
  split
  · simp only [passOver, h]
  · exact h

/-- A fault ends the run unless it is one that the rule passes over. -/
theorem reportRemark_of_fault {rule : Rule} {path : Text} {remark : Remark}
    {session after : Session} {out err : Text} {fault : Fault}
    (h : Session.report (rule.report path remark) session =
      ⟨out, err, after, .error (.fault fault)⟩) :
    reportRemark rule path remark session =
      ⟨out, err, after, if rule.check.passesOver ∧ fault.isPositional then .ok ()
        else .error (.fault fault)⟩ := by
  unfold reportRemark
  split
  next hpasses =>
    simp only [passOver, h, hpasses, true_and]
    split <;> rfl
  next hpasses => rw [h, if_neg fun hboth => hpasses hboth.1]

end Session

/-! ### Events that do not end a run -/

namespace Event

/-- The event does not end the run: no rule gives up, and a finding can be shown in the
given template or its rule passes over the fault. -/
def Settles (template : Text) : Event → Prop
  | complaint _ | opening _ | asking _ => True
  | finding rule path remark => ∀ fault, (rule.report path remark).render template = .error fault →
      rule.check.passesOver = true ∧ fault.isPositional = true
  | givingUp _ => False

/-- A finding that does not end the run is shown after the name that is still to be shown,
and counted. -/
theorem perform_of_settles {event : Event} {report : Report} {session : Session}
    {name : Option Text} (hreport : event.report? = some report)
    (hsettles : event.Settles session.settings.template)
    (hheading : session.heading = some name) :
    event.perform session =
      ⟨headingLine name ++ report.shown session.settings.template, [],
        { session with heading := some none,
                       counts := some (session.counts.getD {} + Counts.tally [report]) },
        .ok ()⟩ := by
  cases event with
  | complaint | opening | asking | givingUp => cases hreport
  | finding rule path remark =>
    obtain rfl : rule.report path remark = report := Option.some.inj hreport
    have heq := Session.report_eq (rule.report path remark) hheading
    rcases hrender : (rule.report path remark).render session.settings.template with fault | text
    · rw [hrender] at heq
      have hperform := Session.reportRemark_of_fault heq
      rwa [if_pos (hsettles fault hrender)] at hperform
    · rw [hrender] at heq
      exact Session.reportRemark_of_ok heq

/-- A finding that does not stop comes after a file was begun. -/
theorem heading_ne_none_of_perform {event : Event} {report : Report} {session : Session}
    (hreport : event.report? = some report) (h : (event.perform session).result = .ok ()) :
    session.heading ≠ none := by
  cases event with
  | complaint | opening | asking | givingUp => cases hreport
  | finding rule path remark =>
    intro hheading
    -- that no file was begun is not a fault of position, so no rule passes over it
    have heq := Session.report_of_nothingOpen (rule.report path remark) hheading
    change (Session.reportRemark rule path remark session).result = .ok () at h
    rw [Session.reportRemark_of_fault heq, if_neg (by simp [Fault.isPositional])] at h
    cases h

/-- An event that does not stop in a session does not end the run. -/
theorem settles_of_perform {event : Event} {session : Session}
    (h : (event.perform session).result = .ok ()) : event.Settles session.settings.template := by
  cases event with
  | complaint | opening | asking => trivial
  | givingUp fault => cases h
  | finding rule path remark =>
    intro fault hrender
    by_contra hends
    obtain ⟨name, hheading⟩ :=
      Option.ne_none_iff_exists'.mp (heading_ne_none_of_perform rfl h)
    have heq := Session.report_eq (rule.report path remark) hheading
    rw [hrender] at heq
    change (Session.reportRemark rule path remark session).result = .ok () at h
    rw [Session.reportRemark_of_fault heq, if_neg hends] at h
    cases h

/-- If a run comes to its end, none of its events ended it. -/
theorem settles_of_forEach {events : List Event} {session : Session}
    (h : (forEach perform events session).result = .ok ()) :
    ∀ event ∈ events, event.Settles session.settings.template := by
  induction events generalizing session with
  | nil => simp
  | cons event events ih =>
    rw [forEach] at h
    have hframe := maintains_perform (Session.outlastsLinting_frame session.frame) event session rfl
    rcases heq : event.perform session with ⟨out, err, after, stop | _⟩
    · rw [andThen_of_error heq] at h
      cases h
    · rw [andThen_of_ok heq] at h
      rw [heq] at hframe
      refine List.forall_mem_cons.mpr ⟨settles_of_perform (by rw [heq]), ?_⟩
      rw [← Session.settings_of_frame hframe]
      exact ih h

/-- **Findings are printed one after the other**, after the name that is still to be shown,
if there are any, and counted. Between them, rules may be asked for, which makes no difference
if there is nothing to choose. -/
theorem forEach_findings {events : List Event} {session : Session} {name : Option Text}
    {counts : Counts} (hcoherent : session.rules.Coherent)
    (hheading : session.heading = some name) (hcounts : session.counts = some counts)
    (hevents : ∀ event ∈ events, (event.report?.isSome ∨ ∃ scope, event = .asking scope) ∧
      event.Settles session.settings.template) :
    ∃ heading made, forEach perform events session =
      ⟨shownUnder name session.settings.template (reports events), [],
        { session with heading, made, counts := some (counts + Counts.tally (reports events)) },
        .ok ()⟩ := by
  induction events generalizing session name counts with
  | nil =>
    obtain ⟨rules, made, extensions, settings, _, _, input, bound⟩ := session
    obtain rfl : _ = some counts := hcounts
    exact ⟨_, _, rfl⟩
  | cons event events ih =>
    obtain ⟨⟨hreport | ⟨scope, rfl⟩, hsettles⟩, hrest⟩ := List.forall_mem_cons.mp hevents
    · obtain ⟨report, hreport⟩ := Option.isSome_iff_exists.mp hreport
      have hfirst := perform_of_settles hreport hsettles hheading
      -- once the first finding was shown, there is no name left to be shown
      obtain ⟨heading, made, hlast⟩ := @ih { session with
        heading := some none
        counts := some (session.counts.getD {} + Counts.tally [report]) } none _ hcoherent rfl rfl
        hrest
      have hreports : reports (event :: events) = report :: reports events := by
        rw [reports, List.filterMap_cons_some hreport, reports]
      refine ⟨heading, made, ?_⟩
      rw [forEach, andThen_of_ok hfirst, hlast, hreports, shownUnder_none, hcounts,
        Option.getD_some, Counts.add_assoc, ← Counts.tally_append]
      simp [shownUnder]
    · have hfirst : (asking scope).perform session = ⟨[], [], { session with
          made := session.rules.madeAfter session.made scope }, .ok ()⟩ :=
        congrArg (Outcome.mk _ _ · _) (Session.asked_of_coherent hcoherent scope)
      obtain ⟨heading, made, hlast⟩ := @ih { session with
        made := session.rules.madeAfter session.made scope } name counts hcoherent hheading hcounts
        hrest
      refine ⟨heading, made, ?_⟩
      rw [forEach, andThen_of_ok hfirst, hlast]
      rfl

end Event

namespace Registry

/-- Rules do nothing but find something or give up, after they were asked for. -/
theorem report_or_asking_of_settles {rules : Registry} {document : Document} {event : Event}
    {template : Text} (hevent : event ∈ rules.events document)
    (hsettles : event.Settles template) :
    event.report?.isSome ∨ ∃ scope, event = .asking scope := by
  obtain ⟨round, -, hevent⟩ := List.mem_flatMap.mp hevent
  rcases List.mem_cons.mp hevent with rfl | hevent
  · exact .inr ⟨round.1, rfl⟩
  · obtain ⟨⟨rule, fault | remarks⟩, -, hmem⟩ := List.mem_flatMap.mp hevent
    · obtain rfl := List.mem_singleton.mp hmem
      exact hsettles.elim
    · obtain ⟨remark, -, rfl⟩ := List.mem_map.mp hmem
      exact .inl rfl

end Registry

namespace Session

/-! ### What actions yield -/

/-- The action prints the given texts and counts the given reports, whatever was counted
before, whatever name was still to be shown and whatever rules were made. It changes nothing
else. -/
def Yields (session : Session) (action : Action Unit) (out err : Text)
    (reports : List Report) : Prop :=
  ∀ heading made counts, ∃ heading' made',
    action { session with heading, made, counts := some counts } =
      ⟨out, err, { session with
        heading := heading'
        made := made'
        counts := some (counts + Counts.tally reports) }, .ok ()⟩

section Yields

variable {session : Session}

theorem yields_done : Yields session (done ()) [] [] [] := fun heading made _ =>
  ⟨heading, made, rfl⟩

theorem yields_complain (text : Text) : Yields session (Action.complain text) [] text [] :=
  fun heading made _ => ⟨heading, made, rfl⟩

theorem yields_andThen {first next : Action Unit} {out err out' err' : Text}
    {reports reports' : List Report} (hfirst : Yields session first out err reports)
    (hnext : Yields session next out' err' reports') :
    Yields session (andThen first fun _ => next) (out ++ out') (err ++ err')
      (reports ++ reports') := by
  intro heading made counts
  obtain ⟨between, made', hbetween⟩ := hfirst heading made counts
  obtain ⟨after, made'', hafter⟩ := hnext between made' (counts + Counts.tally reports)
  refine ⟨after, made'', ?_⟩
  rw [andThen_of_ok hbetween, hafter, Counts.tally_append, Counts.add_assoc]

theorem yields_forEach {α : Type} {f : α → Action Unit} {out err : α → Text}
    {reports : α → List Report} {as : List α}
    (h : ∀ a ∈ as, Yields session (f a) (out a) (err a) (reports a)) :
    Yields session (forEach f as) (as.flatMap out) (as.flatMap err) (as.flatMap reports) := by
  induction as with
  | nil => exact yields_done
  | cons a as ih =>
    obtain ⟨ha, has⟩ := List.forall_mem_cons.mp h
    exact yields_andThen ha (ih has)

end Yields

/-! ### Files and paths -/

/-- **The block of a file**: nothing if there are no findings in it, and otherwise its name,
unless names are not to be shown, and its findings. -/
def block (tree : FileTree) (session : Session) (path : Text) : Text :=
  shownUnder (if session.settings.showNames then some path else none) session.settings.template
    (reportsIn tree session.rules path)

/-- What is said on standard error about a path: that there is nothing, or which files
cannot be read. -/
def complaintsAt (tree : FileTree) (session : Session) (path : Text) : Text :=
  match tree.lookup path with
  | .error _ => missingComplaint path
  | .ok _ => (filesAt tree session path).flatMap fun file => (Document.load tree file).2

/-- Linting a file prints its block. -/
theorem yields_fileSteps {tree : FileTree} {session : Session} {path : Text}
    (hcoherent : session.rules.Coherent)
    (h : ∀ event ∈ session.trace (fileSteps tree path), event.Settles session.settings.template) :
    Yields session (forEach Event.perform (session.trace (fileSteps tree path)))
      (block tree session path) (Document.load tree path).2
      (reportsIn tree session.rules path) := by
  intro heading made counts
  rw [trace_fileSteps hcoherent] at h ⊢
  -- the first two events are that the file is begun and that it may not be readable
  obtain ⟨-, h⟩ := List.forall_mem_cons.mp h
  obtain ⟨-, h⟩ := List.forall_mem_cons.mp h
  obtain ⟨after, made', hafter⟩ := @Event.forEach_findings
    (session.rules.events (Document.load tree path).1)
    { session with
      heading := some (if session.settings.showNames then some path else none)
      made
      counts := some counts } _ _ hcoherent rfl rfl
    fun event hevent =>
      ⟨Registry.report_or_asking_of_settles hevent (h event hevent), h event hevent⟩
  refine ⟨after, made', ?_⟩
  rw [Registry.reports_events] at hafter
  rw [forEach_opening]
  simp only [opened]
  rw [hafter, List.append_nil]
  rfl

/-- Linting what a path leads to prints the blocks of the files there. -/
theorem yields_pathSteps {tree : FileTree} {session : Session} {path : Text}
    (hcoherent : session.rules.Coherent)
    (h : ∀ event ∈ session.trace (pathSteps tree session path),
      event.Settles session.settings.template) :
    Yields session (forEach Event.perform (session.trace (pathSteps tree session path)))
      ((filesAt tree session path).flatMap (block tree session)) (complaintsAt tree session path)
      ((filesAt tree session path).flatMap (reportsIn tree session.rules)) := by
  unfold pathSteps at h ⊢
  unfold complaintsAt
  rcases hlookup : tree.lookup path with obstacle | entry
  · have hfiles : filesAt tree session path = [] := by
      simp only [filesAt, hlookup]
    rw [hfiles]
    change Yields session (andThen (Action.complain (missingComplaint path)) fun _ => done ())
      [] _ []
    rw [andThen_done]
    exact yields_complain (missingComplaint path)
  · simp only [hlookup] at h
    simp only [trace_flatMap hcoherent, forEach_flatMap] at h ⊢
    refine yields_forEach fun file hfile => yields_fileSteps hcoherent fun event hevent => ?_
    exact h event (List.mem_flatMap.mpr ⟨file, hfile, hevent⟩)

/-- Nothing makes linting of what paths lead to give up: no verdict is a fault, and findings
can be shown, or their rules pass over that they cannot. -/
def Quiet (tree : FileTree) (session : Session) (paths : List Text) : Prop :=
  ∀ event ∈ events tree session paths, event.Settles session.settings.template

/-- **Linting prints one block for each file.** -/
theorem yields_events {tree : FileTree} {session : Session} {paths : List Text}
    (hcoherent : session.rules.Coherent) (h : Quiet tree session paths) :
    Yields session (forEach Event.perform (events tree session paths))
      ((paths.flatMap (filesAt tree session)).flatMap (block tree session))
      (paths.flatMap (complaintsAt tree session)) (reported tree session paths) := by
  unfold Quiet at h
  rw [events, steps, trace_flatMap hcoherent] at h ⊢
  rw [forEach_flatMap, reported, List.flatMap_assoc, List.flatMap_assoc]
  refine yields_forEach fun path hpath => yields_pathSteps hcoherent fun event hevent => ?_
  exact h event (List.mem_flatMap.mpr ⟨path, hpath, hevent⟩)

/-! ### Runs -/

/-- What a run that comes to its end prints, counts and gives as its result. -/
structure Decomposes (tree : FileTree) (start : Session) (paths : List Text)
    (outcome : Outcome Nat) : Prop where
  /-- It prints the blocks of the files that paths lead to, one after the other. -/
  out : outcome.out = (paths.flatMap (filesAt tree start)).flatMap (block tree start)
  /-- It complains path by path. -/
  err : outcome.err = paths.flatMap (complaintsAt tree start)
  /-- It counts the reports in these files. -/
  counts : outcome.session.counts = some (.tally (reported tree start paths))
  /-- Its result is that of the errors among them. -/
  result : outcome.result = .ok (status (Counts.tally (reported tree start paths)).errors)

theorem decomposes_of_quiet {tree : FileTree} {start : Session} {paths : List Text}
    (hcoherent : start.rules.Coherent) (hcounts : start.counts = some {})
    (hquiet : Quiet tree start paths) :
    Decomposes tree start paths (concluded (forEach (lintPath tree) paths start)) := by
  obtain ⟨heading, made, heq⟩ := yields_events hcoherent hquiet start.heading start.made {}
  have hstart : { start with heading := start.heading, counts := some {} } = start := by
    rw [← hcounts]
  rw [hstart, Counts.zero_add, ← forEach_lintPath_eq] at heq
  rw [heq]
  exact ⟨rfl, rfl, rfl, rfl⟩

theorem ok_of_concluded {linting : Outcome Unit} {result : Nat}
    (h : (concluded linting).result = .ok result) : linting.result = .ok () := by
  unfold concluded at h
  rcases hlint : linting.result with stop | _
  · rw [hlint] at h
    cases h
  · rfl

theorem quiet_of_ok {tree : FileTree} {start : Session} {paths : List Text} {result : Nat}
    (h : (concluded (forEach (lintPath tree) paths start)).result = .ok result) :
    Quiet tree start paths := by
  refine Event.settles_of_forEach ?_
  rw [← forEach_lintPath_eq]
  exact ok_of_concluded h

/-- Which paths there are in all makes no difference to what some of them lead to. -/
theorem decomposes_run {tree : FileTree} {session : Session} {wishes : List Wish}
    {paths all : List Text} (hcoherent : session.rules.Coherent)
    (hpaths : ∀ word ∈ paths, Reading.ofWord word = .ok .operand)
    (hquiet : Quiet tree (session.begunWith wishes all) paths) :
    Decomposes tree (session.begunWith wishes all) paths
      (run tree (wishes.map Wish.word ++ paths) session) := by
  rw [run_of_wishes wishes hpaths]
  -- the sessions differ in the paths of their settings, which linting does not look at
  have htrace : events tree (session.begunWith wishes paths) paths =
      events tree (session.begunWith wishes all) paths :=
    trace_congr (s := session.begunWith wishes paths) (t := session.begunWith wishes all)
      ⟨rfl, rfl⟩ _
  have hquiet' : Quiet tree (session.begunWith wishes paths) paths := by
    unfold Quiet
    rw [htrace]
    exact hquiet
  have hcoherent' : (session.begunWith wishes paths).rules.Coherent := hcoherent
  obtain ⟨hout, herr, hcounts, hresult⟩ := decomposes_of_quiet hcoherent' rfl hquiet'
  exact ⟨hout, herr, hcounts, hresult⟩

theorem quiet_append {tree : FileTree} {session : Session} (hcoherent : session.rules.Coherent)
    {before after : List Text} :
    Quiet tree session (before ++ after) ↔
      Quiet tree session before ∧ Quiet tree session after := by
  unfold Quiet events steps
  rw [trace_flatMap hcoherent, trace_flatMap hcoherent, trace_flatMap hcoherent,
    List.flatMap_append, List.forall_mem_append]

/-- A finding of a quiet run has its line unless it is of one of the two checks that pass
over faults of position. -/
theorem passesOver_of_quiet {tree : FileTree} {session : Session} {paths : List Text}
    (hcoherent : session.rules.Coherent) (hquiet : Quiet tree session paths) {report : Report}
    (hreport : report ∈ reported tree session paths) {fault : Fault}
    (hfault : report.render session.settings.template = .error fault) :
    fault.isPositional ∧ ∃ rule ∈ session.rules, report.rule = rule.name ∧
      (rule.check = .test .forLoop ∨ rule.check = .test .condition) := by
  rw [← reports_events hcoherent] at hreport
  obtain ⟨event, hevent, hsome⟩ := List.mem_filterMap.mp hreport
  have hsettles := hquiet event hevent
  cases event with
  | complaint | opening | asking | givingUp => cases hsome
  | finding rule path remark =>
    obtain rfl : rule.report path remark = report := Option.some.inj hsome
    obtain ⟨hpasses, hpositional⟩ := hsettles fault hfault
    refine ⟨hpositional, rule, mem_rules_of_finding hcoherent hevent, rfl, ?_⟩
    unfold Check.passesOver at hpasses
    split at hpasses
    next hcheck => exact .inl hcheck
    next hcheck => exact .inr hcheck
    · cases hpasses

/-- An outcome is that of two runs put together. -/
structure Joins (first second both : Outcome Nat) : Prop where
  /-- Both come to their end. -/
  ends : (∃ result, first.result = .ok result) ∧ ∃ result, second.result = .ok result
  /-- What is printed is what they print, one after the other. -/
  out : both.out = first.out ++ second.out
  /-- So is what is said on standard error. -/
  err : both.err = first.err ++ second.err
  /-- What is counted is the sum. -/
  counts : ∃ a b, first.session.counts = some a ∧ second.session.counts = some b ∧
    both.session.counts = some (a + b)

theorem Decomposes.joins {tree : FileTree} {start : Session} {before after : List Text}
    {first second both : Outcome Nat} (hfirst : Decomposes tree start before first)
    (hsecond : Decomposes tree start after second)
    (hboth : Decomposes tree start (before ++ after) both) : Joins first second both := by
  refine ⟨⟨⟨_, hfirst.result⟩, ⟨_, hsecond.result⟩⟩, ?_, ?_, ?_⟩
  · rw [hboth.out, hfirst.out, hsecond.out, List.flatMap_append, List.flatMap_append]
  · rw [hboth.err, hfirst.err, hsecond.err, List.flatMap_append]
  · refine ⟨_, _, hfirst.counts, hsecond.counts, ?_⟩
    rw [hboth.counts, ← Counts.tally_append, reported, List.flatMap_append, List.flatMap_append]
    rfl

/-- **What a run prints decomposes by files.** A run comes to its end exactly if nothing
makes it give up. It then prints one block for each file, each finding has its line in the
block of its file unless its rule passes over that it cannot be shown, and what a path
that leads nowhere adds is one line on standard error. A run with more paths is put
together from runs with some of them and with the others.

All this needs is that there is nothing to choose between the rules, as with the standing ones
in whatever severities and limits. Otherwise a rule could be made in one file and another one
of its name in its stead if that file is left out. -/
theorem run_decomposes (tree : FileTree) {session : Session} (hcoherent : session.rules.Coherent)
    (wishes : List Wish) {words : List Text}
    (hwords : ∀ word ∈ words, Reading.ofWord word = .ok .operand) :
    let start := session.begunWith wishes words
    let outcome := run tree (wishes.map Wish.word ++ words) session
    ((∃ result, outcome.result = .ok result) ↔ Quiet tree start words) ∧
    (Quiet tree start words →
      Decomposes tree start words outcome ∧
      (∀ report ∈ reported tree start words, ∀ fault,
        report.render start.settings.template = .error fault →
          fault.isPositional ∧ ∃ rule ∈ session.rules, report.rule = rule.name ∧
            (rule.check = .test .forLoop ∨ rule.check = .test .condition)) ∧
      ∀ before after, words = before ++ after →
        Joins (run tree (wishes.map Wish.word ++ before) session)
          (run tree (wishes.map Wish.word ++ after) session) outcome) ∧
    (start.settings.showNames = true ↔ Wish.noNames ∉ wishes) ∧
    ((∀ given, Wish.template given ∉ wishes) → ∀ report : Report,
      report.shown start.settings.template =
        Text.line (report.severity.code ++ (": " ++ (Text.ofInt report.line ++ (", " ++
          (Text.ofInt report.char ++ (": " ++ (report.message ++ (" (" ++
            (report.rule ++ ")")))))))))) ∧
    ∀ path obstacle, tree.lookup path = .error obstacle →
      filesAt tree start path = [] ∧
        complaintsAt tree start path =
          Text.line ("rflint: " ++ path ++ ": No such file or directory") := by
  intro start outcome
  have hstart : start.rules.Coherent := hcoherent
  refine ⟨⟨fun ⟨result, hresult⟩ => ?_, fun hquiet => ?_⟩,
    fun hquiet => ⟨decomposes_run hcoherent hwords hquiet, ?_, ?_⟩, ?_, ?_, ?_⟩
  · have hrun : outcome = _ := run_of_wishes wishes hwords tree session
    rw [hrun] at hresult
    exact quiet_of_ok hresult
  · exact ⟨_, (decomposes_run hcoherent hwords hquiet).result⟩
  · exact fun report hreport fault hfault => passesOver_of_quiet hstart hquiet hreport hfault
  · rintro before after rfl
    obtain ⟨hbefore, hafter⟩ := List.forall_mem_append.mp hwords
    obtain ⟨hfirst, hsecond⟩ := (quiet_append hstart).mp hquiet
    exact (decomposes_run hcoherent hbefore hfirst).joins
      (decomposes_run hcoherent hafter hsecond)
      (decomposes_run hcoherent hwords hquiet)
  · exact Wish.showNames_settings wishes words
  · intro hwishes report
    have htemplate : start.settings.template = defaultTemplate :=
      Wish.template_settings words hwishes
    rw [Report.shown, htemplate, Report.render_default]
  · intro path obstacle hlookup
    simp only [filesAt, complaintsAt, hlookup, missingComplaint, and_self]

/-- A file that is given twice has its name shown twice, and a path that leads nowhere
between is passed over in the output. -/
theorem run_decomposes_same_file_twice :
    let shown : Text := "+ a.robot\nW\nE\nW\n"
    let wish : Wish := .template "\x7bseverity\x7d"
    let outcome (words : List Text) := run smallTree ([wish].map Wish.word ++ words) {}
    (outcome ["a.robot", "b.robot", "a.robot"]).out = shown ++ shown ∧
      (outcome ["a.robot", "b.robot", "a.robot"]).err =
        "rflint: b.robot: No such file or directory\n" ∧
      (outcome ["a.robot", "b.robot", "a.robot"]).session.counts =
        some { errors := 2, warnings := 4 } ∧
      Joins (outcome ["a.robot", "b.robot"]) (outcome ["a.robot"])
        (outcome ["a.robot", "b.robot", "a.robot"]) := by
  intro shown wish outcome
  have hwords : ∀ word ∈ [("a.robot" : Text), "b.robot", "a.robot"],
      Reading.ofWord word = .ok .operand := by decide +kernel
  have hcoherent : ({} : Session).rules.Coherent := Registry.coherent_standing
  obtain ⟨hiff, hdecomposes, -⟩ := run_decomposes smallTree hcoherent [wish] hwords
  have hresult : (outcome ["a.robot", "b.robot", "a.robot"]).result = .ok 2 := by decide +kernel
  obtain ⟨⟨hout, herr, hcounts, -⟩, -, hjoins⟩ := hdecomposes (hiff.mp ⟨2, hresult⟩)
  refine ⟨?_, ?_, ?_, hjoins [("a.robot" : Text), "b.robot"] [("a.robot" : Text)] rfl⟩
  · rw [hout]
    decide +kernel
  · rw [herr]
    decide +kernel
  · rw [hcounts]
    decide +kernel

end Session

end SuiteLint
