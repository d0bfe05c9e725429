import Mathlib.Tactic
import SuiteLint.Proofs.Plans

/-!
# Arguments within arguments

An option can name an argument file, and what is in the file is taken up before the words
that follow. Three things about this are settled here.

Argument files are taken up to a certain depth. Whatever comes to an end within that depth
comes to the same end if more is allowed (`Session.refines_takeArguments`), so that it does
not matter at which depth something is taken up.

The paths that an argument file asks for are part of the settings that it hands back. No
option looks at them, and the words that follow replace them
(`Session.ignoresPaths_takeArguments`).

Standard input can be an argument file. It is read as a whole, so that an option either leaves
none of it or has not looked at it (`Session.takesWhole_takeArguments`).
-/

namespace SuiteLint

/-! ### More depth -/

/-- The outcome of an action that had enough depth for the argument files it met. -/
def Outcome.Settled {α : Type} (outcome : Outcome α) : Prop :=
  outcome.result ≠ .error (.fault .endlessArguments)

namespace Action

variable {α β : Type}

/-- The second action does what the first one does, wherever that has enough depth. -/
def Refines (action better : Action α) : Prop :=
  ∀ session, (action session).Settled → better session = action session

theorem refines_self (action : Action α) : Refines action action := fun _ _ => rfl

theorem settled_first {first : Action α} {next : α → Action β} {session : Session}
    (h : (andThen first next session).Settled) : (first session).Settled := by
  intro hcon
  rcases heq : first session with ⟨out, err, after, stop | a⟩
  · rw [heq] at hcon
    rw [andThen_of_error heq] at h
    exact h (by cases hcon; rfl)
  · rw [heq] at hcon
    cases hcon

theorem refines_andThen {first first' : Action α} {next next' : α → Action β}
    (hfirst : Refines first first') (hnext : ∀ a, Refines (next a) (next' a)) :
    Refines (andThen first next) (andThen first' next') := by
  intro session hsettled
  have hfirst' := hfirst session (settled_first hsettled)
  rcases heq : first session with ⟨out, err, after, stop | a⟩
  · rw [andThen_of_error heq, andThen_of_error (hfirst'.trans heq)]
  · rw [andThen_of_ok heq] at hsettled
    rw [andThen_of_ok heq, andThen_of_ok (hfirst'.trans heq), hnext a after hsettled]

end Action

namespace Session

open SuiteLint.Action

variable {tree : FileTree} {nested nested' : Settings → List Text → Action Settings}

theorem refines_perform (h : ∀ settings arguments,
      Refines (nested settings arguments) (nested' settings arguments))
    (settings : Settings) (use : Use) :
    Refines (perform tree nested settings use) (perform tree nested' settings use) := by
  by_cases hswitch : use.switch = .argumentfile
  · obtain ⟨switch, path⟩ := use
    obtain rfl : switch = .argumentfile := hswitch
    rw [perform_argumentfile, perform_argumentfile]
    exact refines_andThen (refines_self _) (h settings)
  · rw [perform_eq hswitch, perform_eq hswitch]
    exact refines_self _

theorem refines_performAll {perform perform' : Settings → Use → Action Settings}
    (h : ∀ settings use, Refines (perform settings use) (perform' settings use))
    (settings : Settings) (uses : List Use) :
    Refines (performAll perform settings uses) (performAll perform' settings uses) := by
  induction uses generalizing settings with
  | nil => exact refines_self _
  | cons use uses ih => exact refines_andThen (h settings use) ih

/-- **What has enough depth goes the same way with more.** -/
theorem refines_takeArguments (depth : Nat) (settings : Settings) (arguments : List Text) :
    Refines (takeArguments tree depth settings arguments)
      (takeArguments tree (depth + 1) settings arguments) := by
  induction depth generalizing settings arguments with
  | zero => exact fun _ hsettled => absurd rfl hsettled
  | succ depth ih =>
    rw [takeArguments_succ_eq, takeArguments_succ_eq]
    refine refines_andThen (refines_self _) fun plan => ?_
    exact refines_andThen (refines_performAll (refines_perform ih) settings plan.uses)
      fun _ => refines_self _

/-! ### Paths on the way -/

/-- What is done next does not depend on the paths that were asked for so far. -/
def IgnoresPaths {β : Type} (next : Settings → Action β) : Prop :=
  ∀ settings paths, next { settings with paths } = next settings

section IgnoresPaths

variable {β : Type} {next : Settings → Action β}

theorem ignoresPaths_conclude (ending : Except UsageFault (List Text)) :
    IgnoresPaths (conclude ending) := by
  intro settings paths
  cases ending <;> rfl

theorem ignoresPaths_perform (hnested : ∀ arguments, IgnoresPaths fun settings =>
      nested settings arguments)
    (hnext : IgnoresPaths next) (use : Use) :
    IgnoresPaths fun settings => andThen (perform tree nested settings use) next := by
  intro settings paths
  by_cases hswitch : use.switch = .argumentfile
  · obtain ⟨switch, path⟩ := use
    obtain rfl : switch = .argumentfile := hswitch
    have h : nested { settings with paths } = nested settings :=
      funext fun arguments => hnested arguments settings paths
    simp only [perform_argumentfile, h]
  · have hdone (settings : Settings) : andThen (perform tree nested settings use) next =
        andThen (use.deed tree) fun _ => next (use.change settings) := by
      rw [perform_eq hswitch, andThen_assoc]
      rfl
    simp only [hdone, Use.change_withPaths]
    exact congrArg _ (funext fun _ => hnext (use.change settings) paths)

theorem ignoresPaths_performAll {perform : Settings → Use → Action Settings}
    (hperform : ∀ (next : Settings → Action β) (use : Use), IgnoresPaths next →
      IgnoresPaths fun settings => andThen (perform settings use) next)
    (hnext : IgnoresPaths next) (uses : List Use) :
    IgnoresPaths fun settings => andThen (performAll perform settings uses) next := by
  induction uses with
  | nil => exact hnext
  | cons use uses ih =>
    intro settings paths
    have hstep (settings : Settings) : andThen (performAll perform settings (use :: uses)) next =
        andThen (perform settings use) fun reached =>
          andThen (performAll perform reached uses) next :=
      andThen_assoc _ _ _
    simp only [hstep]
    exact hperform _ use ih settings paths

end IgnoresPaths

theorem ignoresPaths_follow (hnested : ∀ arguments, IgnoresPaths fun settings =>
      nested settings arguments) (plan : Plan) :
    IgnoresPaths fun settings => follow (perform tree nested) settings plan :=
  ignoresPaths_performAll (fun _ use hnext => ignoresPaths_perform hnested hnext use)
    (ignoresPaths_conclude plan.ending) plan.uses

/-- **Arguments do not depend on the paths that were asked for before them.** -/
theorem ignoresPaths_takeArguments (depth : Nat) (arguments : List Text) :
    IgnoresPaths fun settings => takeArguments tree depth settings arguments := by
  induction depth generalizing arguments with
  | zero => exact fun _ _ => rfl
  | succ depth ih =>
    intro settings paths
    simp only [takeArguments_succ_eq]
    exact congrArg _ (funext fun plan => ignoresPaths_follow ih plan settings paths)

/-! ### Standard input -/

/-- From a session, the action does the same whatever standard input has to give. -/
def Untouched {α : Type} (action : Action α) (session : Session) : Prop :=
  ∀ input, action { session with input } =
    { action session with session := { (action session).session with input } }

/-- An action that leaves nothing of standard input, or does not look at it. -/
def TakesWhole {α : Type} (action : Action α) : Prop :=
  ∀ session, (action session).session.input = [] ∨ Untouched action session

section TakesWhole

variable {α β : Type}

theorem Untouched.input_eq {action : Action α} {session : Session}
    (h : Untouched action session) : (action session).session.input = session.input := by
  have hsame : action session = { action session with
      session := { (action session).session with input := session.input } } := h session.input
  rw [hsame]

/-- What has nothing left to take leaves nothing. -/
theorem TakesWhole.input_eq_nil {action : Action α} (h : TakesWhole action) {session : Session}
    (hinput : session.input = []) : (action session).session.input = [] :=
  (h session).elim id fun huntouched => huntouched.input_eq.trans hinput

theorem takesWhole_done (a : α) : TakesWhole (done a) := fun _ => .inr fun _ => rfl

theorem takesWhole_stop (reason : Stop) : TakesWhole (Action.stop reason : Action α) :=
  fun _ => .inr fun _ => rfl

theorem takesWhole_print (text : Text) : TakesWhole (Action.print text) :=
  fun _ => .inr fun _ => rfl

theorem takesWhole_complain (text : Text) : TakesWhole (Action.complain text) :=
  fun _ => .inr fun _ => rfl

theorem takesWhole_andThen {first : Action α} {next : α → Action β}
    (hfirst : TakesWhole first) (hnext : ∀ a, TakesWhole (next a)) :
    TakesWhole (andThen first next) := by
  intro session
  rcases heq : first session with ⟨out, err, after, stop | a⟩
  · rw [andThen_of_error heq]
    refine (hfirst session).imp (fun hnil => by rwa [heq] at hnil) fun huntouched input => ?_
    have hother := huntouched input
    rw [heq] at hother
    rw [andThen_of_error heq, andThen_of_error hother]
  · rw [andThen_of_ok heq]
    rcases hfirst session with hnil | huntouched
    · rw [heq] at hnil
      exact .inl ((hnext a).input_eq_nil hnil)
    · refine (hnext a after).imp id fun hafter input => ?_
      have hother := huntouched input
      rw [heq] at hother
      rw [andThen_of_ok heq, andThen_of_ok hother, hafter input]

theorem takesWhole_orUsage (result : Except UsageFault α) : TakesWhole (orUsage result) := by
  cases result with
  | ok a => exact takesWhole_done a
  | error fault => exact takesWhole_andThen (takesWhole_complain _) fun _ => takesWhole_stop _

end TakesWhole

theorem takesWhole_readArgumentFile (tree : FileTree) (path : Text) :
    TakesWhole (readArgumentFile tree path) := by
  intro session
  by_cases hstdin : isStandardInput path = true
  · exact .inl (by rw [readArgumentFile, if_pos hstdin]; rfl)
  · rw [readArgumentFile, if_neg hstdin]
    rcases tree.readText path with failure | text
    · exact .inr fun _ => rfl
    · exact .inr fun _ => rfl

theorem takesWhole_expandArguments (tree : FileTree) (bound : Nat) (arguments : List Text) :
    TakesWhole (expandArguments tree bound arguments) := by
  induction bound generalizing arguments with
  | zero => exact takesWhole_stop _
  | succ bound ih =>
    rw [expandArguments]
    rcases ArgumentFile.nextMention? arguments with _ | mention
    · exact takesWhole_done arguments
    · exact takesWhole_andThen (takesWhole_readArgumentFile tree mention.path) fun _ => ih _

theorem takesWhole_argumentsIn (tree : FileTree) (path : Text) :
    TakesWhole (argumentsIn tree path) := by
  intro session
  exact takesWhole_expandArguments tree session.mentionBound [("-A" : Text), path] session

theorem takesWhole_revise (revision : Registry → Except Fault Registry) :
    TakesWhole (revise revision) := by
  intro session
  refine .inr fun input => ?_
  have hasked : ({ session with input } : Session).askedAll = { session.askedAll with input } := rfl
  rw [revise, revise, hasked]
  rcases revision session.askedAll.rules with fault | rules <;> rfl

theorem takesWhole_deed (tree : FileTree) (use : Use) : TakesWhole (use.deed tree) := by
  obtain ⟨switch, value⟩ := use
  have hseverity (severity : Severity) : TakesWhole (setSeverity value severity) := by
    rw [setSeverity_eq_revise]
    exact takesWhole_revise _
  have hconfigure : TakesWhole (configure value) := by
    rw [configure_eq_revise]
    split
    · exact takesWhole_stop _
    · exact takesWhole_revise _
  have hload : TakesWhole (loadRules tree value) := by
    obtain ⟨complaint, hload⟩ := loadRules_eq tree value
    intro session
    refine .inr fun input => ?_
    rw [hload, hload]
  cases switch with
  | help => exact takesWhole_andThen (takesWhole_print _) fun _ => takesWhole_stop _
  | extension => exact fun _ => .inr fun _ => rfl
  | error => exact hseverity .error
  | ignore => exact hseverity .ignore
  | warning => exact hseverity .warning
  | configure => exact hconfigure
  | rulefile => exact hload
  | _ => exact takesWhole_done ()

theorem takesWhole_perform (h : ∀ settings arguments, TakesWhole (nested settings arguments))
    (settings : Settings) (use : Use) : TakesWhole (perform tree nested settings use) := by
  by_cases hswitch : use.switch = .argumentfile
  · obtain ⟨switch, path⟩ := use
    obtain rfl : switch = .argumentfile := hswitch
    exact takesWhole_andThen (takesWhole_argumentsIn tree path) (h settings)
  · rw [perform_eq hswitch]
    exact takesWhole_andThen (takesWhole_deed tree use) fun _ => takesWhole_done _

theorem takesWhole_performAll {perform : Settings → Use → Action Settings}
    (h : ∀ settings use, TakesWhole (perform settings use)) (settings : Settings)
    (uses : List Use) : TakesWhole (performAll perform settings uses) := by
  induction uses generalizing settings with
  | nil => exact takesWhole_done settings
  | cons use uses ih => exact takesWhole_andThen (h settings use) ih

/-- **Arguments take all of standard input or do not look at it.** -/
theorem takesWhole_takeArguments (depth : Nat) (settings : Settings) (arguments : List Text) :
    TakesWhole (takeArguments tree depth settings arguments) := by
  induction depth generalizing settings arguments with
  | zero => exact takesWhole_stop _
  | succ depth ih =>
    rw [takeArguments_succ_eq]
    refine takesWhole_andThen (takesWhole_orUsage _) fun plan => ?_
    refine takesWhole_andThen (takesWhole_performAll (takesWhole_perform ih) settings _)
      fun reached => ?_
    rcases plan.ending with fault | paths
    · exact takesWhole_orUsage (.error fault)
    · exact takesWhole_done _

end Session

end SuiteLint
