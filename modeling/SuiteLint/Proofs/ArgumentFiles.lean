import Mathlib.Tactic
import SuiteLint.Proofs.Nesting
import SuiteLint.Proofs.Trace

/-!
# Argument files

An argument file stands for the arguments in it. As far as these are options, a run with an
argument file goes as the run in which they stand in its place
(`Session.run_argumentFile`). The file is taken up by a parse of its own in the middle of the
outer one, and so there is something to show: that no option in the file has been reset or
performed at another time when the outer parse goes on.

It takes an option for granted, though, to which the file is the value. A word that looks
like an option is never taken for the value of one, and a file of such a name is not reached
(`Session.run_argumentFile_hyphen`).

Paths are another matter. Those in the file are the paths to look at only until the outer
parse comes to its own, and it does so at its end in any case. So paths in an argument file
are dropped, and the run looks at those on the command line alone
(`Session.run_paths_in_argumentFile`).
-/

namespace SuiteLint

open SuiteLint.Action

theorem Options.argumentFile {path : Text} (h : Reading.ofWord path = .ok .operand) :
    Options ["-A", path] [⟨.argumentfile, path⟩] := by
  have hword : Reading.ofWord "-A" = .ok (.option .argumentfile true .nothing) := rfl
  have huse : Use.ofOption .argumentfile true .nothing = .ok ([], .awaits .argumentfile) := rfl
  exact .pair hword huse h .nil

namespace Session

variable {tree : FileTree} {depth : Nat} {words rest : List Text} {uses : List Use}

/-! ### Options before other words -/

/-- Performs an option, where argument files may be nested to the given depth. -/
def performAt (tree : FileTree) (depth : Nat) : Settings → Use → Action Settings :=
  perform tree (takeArguments tree depth)

theorem takeArguments_eq_follow {arguments : List Text} {plan : Plan}
    (h : Plan.ofWords arguments = .ok plan) (settings : Settings) :
    takeArguments tree (depth + 1) settings arguments =
      follow (performAt tree depth) settings plan := by
  rw [takeArguments_succ_eq, h]
  rfl

/-- Performs an option of the command line itself. -/
def performOuter (tree : FileTree) : Settings → Use → Action Settings :=
  performAt tree (nestingBound - 1)

theorem takeArguments_outer {arguments : List Text} {plan : Plan}
    (h : Plan.ofWords arguments = .ok plan) :
    takeArguments tree nestingBound {} arguments = follow (performOuter tree) {} plan :=
  takeArguments_eq_follow h {}

/-- A run whose words begin with options performs these first. -/
theorem run_of_plan {plan : Plan} (hwords : Options words uses)
    (hrest : Plan.ofWords rest = .ok plan) :
    run tree (words ++ rest) =
      andThen (performAll (performOuter tree) {} uses) fun settings =>
        andThen (follow (performOuter tree) settings plan) (proceed tree) := by
  have hplan : Plan.ofWords (words ++ rest) = .ok (plan.after uses) := by
    rw [hwords.plan_append, hrest]
    rfl
  rw [run_eq, takeArguments_outer hplan, follow_after, andThen_assoc]

/-- Words that cannot be read are complained about before any option takes effect. -/
theorem run_of_fault {fault : UsageFault} (hwords : Options words uses)
    (hrest : Plan.ofWords rest = .error fault) : run tree (words ++ rest) = failUsage fault := by
  have hplan : Plan.ofWords (words ++ rest) = .error fault := by
    rw [hwords.plan_append, hrest]
    rfl
  have htake : takeArguments tree nestingBound {} (words ++ rest) =
      andThen (orUsage (Plan.ofWords (words ++ rest))) (follow (performOuter tree) {}) :=
    takeArguments_succ_eq tree _ {} _
  rw [run_eq, htake, hplan]
  change andThen (andThen (failUsage fault) _) _ = _
  rw [failUsage_andThen, failUsage_andThen]

/-! ### An argument file in the middle -/

variable {arguments names : List Text} {path : Text} {inside : List Use}

/-- **An argument file and the options in it**: to perform the one comes to the same as to
perform the others, whatever paths follow them in the file. -/
theorem performAll_argumentfile {β : Type} {reached taken : Session}
    {next : Settings → Action β}
    (harguments : Plan.ofWords arguments = .ok ⟨inside, .ok names⟩)
    (hgives : argumentsIn tree path reached = ⟨[], [], taken, .ok arguments⟩)
    (hnext : IgnoresPaths next) (settings : Settings)
    (hsettled : (andThen (performAll (performAt tree depth) settings [⟨.argumentfile, path⟩]) next
      reached).Settled) :
    andThen (performAll (performAt tree depth) settings [⟨.argumentfile, path⟩]) next reached =
      andThen (performAll (performAt tree depth) settings inside) next taken := by
  have hread : andThen (performAll (performAt tree depth) settings [⟨.argumentfile, path⟩]) next
      reached = andThen (takeArguments tree depth settings arguments) next taken := by
    have hone : andThen (performAll (performAt tree depth) settings [⟨.argumentfile, path⟩]) next =
        andThen (perform tree (takeArguments tree depth) settings ⟨.argumentfile, path⟩) next :=
      andThen_assoc _ _ _
    rw [hone, perform_argumentfile, andThen_assoc, andThen_of_ok hgives]
    rfl
  rw [hread] at hsettled ⊢
  cases depth with
  | zero => exact absurd rfl hsettled
  | succ depth =>
    -- the file is taken up one level further down, and its paths are of no concern to the rest
    have hinside : andThen (takeArguments tree (depth + 1) settings arguments) next =
        andThen (performAll (performAt tree depth) settings inside) next := by
      rw [takeArguments_eq_follow harguments, follow, andThen_assoc]
      exact congrArg _ (funext fun reached => hnext reached names)
    rw [hinside] at hsettled ⊢
    have hrefines : Refines (andThen (performAll (performAt tree depth) settings inside) next)
        (andThen (performAll (performAt tree (depth + 1)) settings inside) next) :=
      refines_andThen
        (refines_performAll (refines_perform (refines_takeArguments depth)) settings inside)
        fun reached => refines_self (next reached)
    exact (hrefines taken hsettled).symm

/-! ### Standard input on the way -/

/-- Two sessions that differ in nothing but what standard input has to give. -/
def SameButInput (s t : Session) : Prop := { s with input := [] } = { t with input := [] }

variable {before : List Text} {left : Text} {session : Session}

/-- The session in which the words before an argument file leave off. -/
def reachedBy (tree : FileTree) (before : List Text) (session : Session) : Session :=
  (takeArguments tree nestingBound {} before session).session

theorem reachedBy_eq (hbefore : Options before uses) (session : Session) :
    reachedBy tree before session = (performAll (performOuter tree) {} uses session).session := by
  rw [reachedBy, takeArguments_outer hbefore.plan, follow]
  rcases heq : performAll (performOuter tree) {} uses session with
    ⟨out, err, after, stop | settings⟩
  · rw [andThen_of_error heq]
  · rw [andThen_of_ok heq]
    rfl

/-- An argument file with the given arguments, read after other words, leaves the given part
of standard input. -/
def Gives (tree : FileTree) (before : List Text) (session : Session) (path : Text)
    (arguments : List Text) (left : Text) : Prop :=
  argumentsIn tree path (reachedBy tree before session) =
    ⟨[], [], { reachedBy tree before session with input := left }, .ok arguments⟩

/-- The session in which standard input has lost what an argument file takes of it. -/
def afterTaking (tree : FileTree) (before : List Text) (left : Text) (session : Session) :
    Session :=
  if left = (reachedBy tree before session).input then session else { session with input := left }

/-- The words before an argument file have not looked at standard input, if something of it
is left for the file. -/
theorem untouched_before (hbefore : Options before uses)
    (hgives : Gives tree before session path arguments left)
    (hleft : left ≠ (reachedBy tree before session).input) :
    Untouched (performAll (performOuter tree) {} uses) session := by
  have hwhole : TakesWhole (performAll (performOuter tree) {} uses) :=
    takesWhole_performAll (takesWhole_perform (takesWhole_takeArguments _)) {} uses
  refine (hwhole session).resolve_left fun hnil => hleft ?_
  rw [← reachedBy_eq hbefore] at hnil
  have hfile := (takesWhole_argumentsIn tree path).input_eq_nil hnil
  rw [show argumentsIn tree path (reachedBy tree before session) = _ from hgives] at hfile
  exact hfile.trans hnil.symm

/-- With what the file leaves of standard input, the words before it go the same way. -/
theorem performAll_afterTaking (hbefore : Options before uses)
    (hgives : Gives tree before session path arguments left) :
    performAll (performOuter tree) {} uses (afterTaking tree before left session) =
      { performAll (performOuter tree) {} uses session with
        session := { reachedBy tree before session with input := left } } := by
  rw [afterTaking]
  by_cases hleft : left = (reachedBy tree before session).input
  · rw [if_pos hleft, hleft, reachedBy_eq hbefore]
  · rw [if_neg hleft, untouched_before hbefore hgives hleft left, reachedBy_eq hbefore]

theorem relates_failUsage {α : Type} (R : Session → Session → Prop) (fault : UsageFault) :
    Relates R R (failUsage fault : Action α) :=
  relates_bind (fun _ _ h => h) (relates_complain _) fun _ _ _ h => ⟨rfl, rfl, h, rfl⟩

/-- **Options in an argument file count as if they stood in its place.** The run prints the
same, has the same result and leaves the same session behind. If the file asks for standard
input, the other run finds of it what the file leaves. -/
theorem run_argumentFile (hbefore : Options before uses)
    (hpath : Reading.ofWord path = .ok .operand) (harguments : Options arguments inside)
    (hgives : Gives tree before session path arguments left) (rest : List Text)
    (hsettled : (run tree (before ++ [("-A" : Text), path] ++ rest) session).Settled) :
    Alike SameButInput
      (run tree (before ++ [("-A" : Text), path] ++ rest) session)
      (run tree (before ++ arguments ++ rest) (afterTaking tree before left session)) := by
  have hstart := performAll_afterTaking hbefore hgives
  have hsame : SameButInput session (afterTaking tree before left session) := by
    rw [afterTaking]
    split <;> rfl
  rw [List.append_assoc] at hsettled ⊢
  rw [List.append_assoc before]
  have hfile := (Options.argumentFile hpath).plan_append rest
  have hinside := harguments.plan_append rest
  rcases hrest : Plan.ofWords rest with fault | plan
  · rw [hrest] at hfile hinside
    rw [run_of_fault hbefore hfile, run_of_fault hbefore hinside]
    exact relates_failUsage SameButInput fault session _ hsame
  · rw [hrest] at hfile hinside
    have hnext : IgnoresPaths fun settings =>
        andThen (follow (performOuter tree) settings plan) (proceed tree) :=
      fun settings paths => congrArg (andThen · (proceed tree))
        (ignoresPaths_follow (ignoresPaths_takeArguments _) plan settings paths)
    rw [run_of_plan hbefore hfile] at hsettled ⊢
    rw [run_of_plan hbefore hinside]
    simp only [follow_after, andThen_assoc] at hsettled ⊢
    rcases heq : performAll (performOuter tree) {} uses session with
      ⟨out, err, after, stop | settings⟩
    · -- the file is not reached
      have hafter : reachedBy tree before session = after := by rw [reachedBy_eq hbefore, heq]
      rw [heq, hafter] at hstart
      rw [andThen_of_error heq, andThen_of_error hstart]
      exact ⟨rfl, rfl, rfl, rfl⟩
    · have hafter : reachedBy tree before session = after := by rw [reachedBy_eq hbefore, heq]
      rw [Gives, hafter] at hgives
      rw [heq, hafter] at hstart
      rw [andThen_of_ok heq] at hsettled ⊢
      rw [andThen_of_ok hstart]
      have hmiddle := performAll_argumentfile harguments.plan hgives hnext settings hsettled
      change (andThen (performAll (performOuter tree) settings [⟨.argumentfile, path⟩]) _ after) =
        andThen (performAll (performOuter tree) settings inside) _ _ at hmiddle
      rw [hmiddle]
      exact ⟨rfl, rfl, rfl, rfl⟩

/-- A folder with a suite, which has a finding that counts as an error, and with argument
files. One of these has the name of an option, one refers to another, and one has a path in
it. -/
def argumentTree : FileTree where
  entries := [
    .file "a.robot" { bytes := [42, 84, 101, 115, 116, 32, 99, 97, 115, 101, 10, 84] },
    -- the option `-E txt`
    .file "-args" { bytes := [45, 69, 32, 116, 120, 116] },
    .file "args" { bytes := [45, 65, 32, 45, 97, 114, 103, 115] },
    -- the option `-r` and the path `a.robot`
    .file "names" { bytes := [45, 114, 10, 97, 46, 114, 111, 98, 111, 116] }]
  workingFolder := []

/-- The option `-E txt`. -/
theorem options_extension : Options ["-E", "txt"] [⟨.extension, "txt"⟩] := by
  have hword : Reading.ofWord "-E" = .ok (.option .extension true .nothing) := rfl
  have huse : Use.ofOption .extension true .nothing = .ok ([], .awaits .extension) := rfl
  exact .pair hword huse rfl .nil

/-- The option `-r`. -/
theorem options_recursive : Options ["-r"] [⟨.recursive, []⟩] := by
  have hword : Reading.ofWord "-r" = .ok (.option .recursive true .nothing) := rfl
  have huse : Use.ofOption .recursive true .nothing = .ok ([⟨.recursive, []⟩], .complete) := rfl
  exact .single hword huse .nil

/-- The options in the file hold before a path is looked at, although they are found in a
file that another one refers to. -/
theorem run_argumentFile_nested :
    let before : List Text := ["-r"]
    let file : List Text := ["-A", "args"]
    let arguments : List Text := ["-E", "txt"]
    let rest : List Text := ["a.robot"]
    Gives argumentTree before {} "args" arguments [] ∧
      Alike SameButInput (run argumentTree (before ++ file ++ rest) {})
        (run argumentTree (before ++ arguments ++ rest) {}) ∧
      (run argumentTree (before ++ file ++ rest) {}).result = .ok 0 ∧
      (run argumentTree (before ++ rest) {}).result = .ok 1 := by
  intro before file arguments rest
  have hreached : reachedBy argumentTree before {} = {} := by
    rw [reachedBy_eq options_recursive]
    rfl
  have hgives : Gives argumentTree before {} "args" arguments [] := by
    rw [Gives, hreached]
    rfl
  have hleft : afterTaking argumentTree before [] {} = {} := by
    rw [afterTaking, hreached]
    rfl
  have hresult : (run argumentTree (before ++ file ++ rest) {}).result = .ok 0 := by
    decide +kernel
  have hsettled : (run argumentTree (before ++ file ++ rest) {}).Settled := by
    rw [Outcome.Settled, hresult]
    exact nofun
  have halike := run_argumentFile options_recursive rfl options_extension hgives rest hsettled
  rw [hleft] at halike
  exact ⟨hgives, halike, hresult, by decide +kernel⟩

/-- A file with the name of an option is not taken for the value of one, and so the run ends
where the run with the arguments in the file has them take effect. -/
theorem run_argumentFile_hyphen :
    Options ["-E", "txt"] [⟨.extension, "txt"⟩] ∧
      Gives argumentTree [] {} "-args" ["-E", "txt"] [] ∧
      (run argumentTree ["-A", "-args"] {}).result = .error (.exit 2) ∧
      (run argumentTree ["-A", "-args"] {}).session.extensions = [] ∧
      (run argumentTree ["-E", "txt"] {}).result = .ok 0 ∧
      (run argumentTree ["-E", "txt"] {}).session.extensions = ["txt"] := by
  have hgives : Gives argumentTree [] {} "-args" ["-E", "txt"] [] := by
    rw [Gives, reachedBy_eq .nil]
    rfl
  exact ⟨options_extension, hgives, by decide +kernel, by decide +kernel, by decide +kernel,
    by decide +kernel⟩

/-! ### Paths in an argument file -/

end Session

/-- Nothing is asked for but to lint. -/
def Settings.Lints (settings : Settings) : Prop :=
  settings.version = false ∧ settings.list = false ∧ settings.describe = false

namespace Event

/-- The file that is begun, if one is. -/
def opening? : Event → Option Text
  | opening path => some path
  | _ => none

/-- The files that are begun, in order. -/
def openings (events : List Event) : List Text := events.filterMap opening?

/-- No verdict leads to another file. -/
theorem openings_ofVerdict (path : Text) (application : Rule × Verdict) :
    openings (ofVerdict path application) = [] := by
  obtain ⟨rule, fault | remarks⟩ := application
  · rfl
  · rw [openings, ofVerdict, List.filterMap_map]
    exact List.filterMap_eq_nil_iff.mpr fun _ _ => rfl

end Event

/-- The file that is begun in a step, if one is. -/
def Step.opening? : Step → Option Text
  | opening path => some path
  | _ => none

namespace Session

/-- The files that are begun can be told from the steps. -/
theorem openings_trace (session : Session) (steps : List Step) :
    Event.openings (session.trace steps) = steps.filterMap Step.opening? := by
  induction steps generalizing session with
  | nil => rfl
  | cons step steps ih =>
    rw [trace, Event.openings, List.filterMap_append]
    have hrest := ih (step.after session)
    rw [Event.openings] at hrest
    rw [hrest]
    cases step with
    | complaint | opening => rfl
    | playing path round =>
      have hround : ((Step.playing path round).events session).filterMap Event.opening? = [] := by
        rw [Step.events, Round.events, List.filterMap_cons_none rfl, List.filterMap_flatMap]
        exact List.flatMap_eq_nil_iff.mpr fun application _ =>
          Event.openings_ofVerdict path application
      rw [hround, List.filterMap_cons_none rfl, List.nil_append]

theorem openings_fileSteps (tree : FileTree) (path : Text) :
    (fileSteps tree path).filterMap Step.opening? = [path] := by
  have hrounds (path : Text) (rounds : List Round) :
      (rounds.map (Step.playing path)).filterMap Step.opening? = [] := by
    rw [List.filterMap_map]
    exact List.filterMap_eq_nil_iff.mpr fun _ _ => rfl
  exact congrArg (path :: ·) (hrounds _ _)

/-- The files that are begun are those that the paths lead to. -/
theorem openings_events (tree : FileTree) (session : Session) (paths : List Text) :
    Event.openings (events tree session paths) = paths.flatMap (filesAt tree session) := by
  rw [events, openings_trace, steps, List.filterMap_flatMap]
  refine List.flatMap_congr fun path _ => ?_
  unfold pathSteps
  rcases hlookup : tree.lookup path with obstacle | entry
  · simp [filesAt, hlookup, Step.opening?]
  · simp only [List.filterMap_flatMap, openings_fileSteps]
    exact List.flatMap_singleton' _

/-- What is left of a run that lints, once its arguments have been taken up, is the trace of
its paths. -/
theorem proceed_of_lints {settings : Settings} (h : settings.Lints) (tree : FileTree)
    (session : Session) :
    proceed tree settings session = concluded (forEach Event.perform
      (events tree { session with settings, counts := some {} } settings.paths)
      { session with settings, counts := some {} }) := by
  obtain ⟨hversion, hlist, hdescribe⟩ := h
  have hproceed : proceed tree settings session =
      lintPaths tree settings.paths { session with settings } := by
    unfold proceed
    simp only [hversion, hlist, hdescribe, Bool.false_eq_true, if_false]
    rfl
  rw [hproceed, lintPaths_eq, forEach_lintPath_eq]

/-- Paths after options are taken up after them. -/
theorem takeArguments_append_paths {options paths : List Text} (hoptions : Options options uses)
    (hpaths : Plan.ofWords paths = .ok ⟨[], .ok paths⟩) {out err : Text} {after : Session}
    {settings : Settings}
    (h : takeArguments tree nestingBound {} options session = ⟨out, err, after, .ok settings⟩) :
    takeArguments tree nestingBound {} (options ++ paths) session =
      ⟨out, err, after, .ok { settings with paths }⟩ := by
  have hplan : Plan.ofWords (options ++ paths) = .ok ⟨uses ++ [], .ok paths⟩ := by
    rw [hoptions.plan_append, hpaths]
    rfl
  rw [List.append_nil] at hplan
  rw [takeArguments_outer hoptions.plan, follow] at h
  rw [takeArguments_outer hplan, follow]
  rcases heq : performAll (performOuter tree) {} uses session with
    ⟨out', err', after', stop | settings'⟩
  · rw [andThen_of_error heq] at h
    cases h
  · rw [andThen_of_ok heq] at h ⊢
    cases h
    rfl

/-- **Paths in an argument file are dropped.** The run goes as with the options in the file
alone. If it comes to linting, it performs the trace of the paths on the command line, and
the files that it begins are those which these lead to. So a path in the file counts only if
the files it leads to are asked for on the command line as well. -/
theorem run_paths_in_argumentFile {options paths : List Text} (hoptions : Options options inside)
    (hnames : Plan.ofWords names = .ok ⟨[], .ok names⟩)
    (hpath : Reading.ofWord path = .ok .operand)
    (hgives : argumentsIn tree path session =
      ⟨[], [], { session with input := left }, .ok (options ++ names)⟩)
    (hpaths : Plan.ofWords paths = .ok ⟨[], .ok paths⟩)
    (hsettled : (run tree ([("-A" : Text), path] ++ paths) session).Settled) :
    run tree ([("-A" : Text), path] ++ paths) session =
        run tree (options ++ paths) { session with input := left } ∧
      ∀ {out err : Text} {after : Session} {settings : Settings},
        takeArguments tree nestingBound {} options { session with input := left } =
          ⟨out, err, after, .ok settings⟩ →
        settings.Lints →
        let start := { after with settings := { settings with paths }, counts := some {} }
        let linting := concluded (forEach Event.perform (events tree start paths) start)
        run tree ([("-A" : Text), path] ++ paths) session =
            ⟨out ++ linting.out, err ++ linting.err, linting.session, linting.result⟩ ∧
          Event.openings (events tree start paths) = paths.flatMap (filesAt tree start) := by
  have hplan : Plan.ofWords (options ++ names) = .ok ⟨inside ++ [], .ok names⟩ := by
    rw [hoptions.plan_append, hnames]
    rfl
  rw [List.append_nil] at hplan
  have hnext : IgnoresPaths fun settings =>
      andThen (follow (performOuter tree) settings ⟨[], .ok paths⟩) (proceed tree) :=
    fun settings others => congrArg (andThen · (proceed tree))
      (ignoresPaths_follow (ignoresPaths_takeArguments _) _ settings others)
  have hsame : run tree ([("-A" : Text), path] ++ paths) session =
      run tree (options ++ paths) { session with input := left } := by
    rw [run_of_plan (Options.argumentFile hpath) hpaths] at hsettled ⊢
    rw [run_of_plan hoptions hpaths]
    exact performAll_argumentfile hplan hgives hnext {} hsettled
  refine ⟨hsame, fun {out err after settings} htake hlints => ⟨?_, openings_events tree _ paths⟩⟩
  have hproceed := proceed_of_lints (show Settings.Lints { settings with paths } from hlints) tree
    after
  rw [hsame, run_eq, andThen_of_ok (takeArguments_append_paths hoptions hpaths htake), hproceed]

/-- A path in an argument file is not looked at, though the suite it leads to has a finding
that counts as an error. -/
theorem run_paths_in_argumentFile_alone :
    let start : Session := { settings := { recursive := true }, counts := some {} }
    argumentsIn argumentTree "names" {} = ⟨[], [], {}, .ok ["-r", "a.robot"]⟩ ∧
      filesAt argumentTree start "a.robot" = ["a.robot"] ∧
      Event.openings (events argumentTree start []) = [] ∧
      run argumentTree ["-A", "names"] {} = run argumentTree ["-r"] {} ∧
      (run argumentTree ["-A", "names"] {}).result = .ok 0 ∧
      (run argumentTree ["-r", "a.robot"] {}).result = .ok 1 := by
  intro start
  have hgives : argumentsIn argumentTree "names" {} = ⟨[], [], {}, .ok ["-r", "a.robot"]⟩ := by rfl
  have hnames : Plan.ofWords ["a.robot"] = .ok ⟨[], .ok ["a.robot"]⟩ :=
    Plan.ofWords_operands (by decide)
  have htake : takeArguments argumentTree nestingBound {} ["-r"] {} =
      ⟨[], [], {}, .ok { recursive := true }⟩ := by
    rw [takeArguments_outer options_recursive.plan]
    rfl
  have hresult : (run argumentTree ["-A", "names"] {}).result = .ok 0 := by decide +kernel
  have hsettled : (run argumentTree ["-A", "names"] {}).Settled := by
    rw [Outcome.Settled, hresult]
    exact nofun
  obtain ⟨hsame, hlints⟩ :=
    run_paths_in_argumentFile options_recursive hnames rfl hgives rfl hsettled
  obtain ⟨-, hopenings⟩ := hlints htake ⟨rfl, rfl, rfl⟩
  exact ⟨hgives, by decide, hopenings, hsame, hresult, by decide +kernel⟩

end Session

end SuiteLint
