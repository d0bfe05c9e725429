import Mathlib.Tactic
import SuiteLint.Proofs.Runs
import SuiteLint.Proofs.SeverityOptions

/-!
# What a command line says

Words are taken up one after the other, and an option takes effect as soon as it is met. Yet
which options there are, and with which values, does not depend on what they do. It can be
told from the words alone, and this is their *plan*: the uses of options in order, and how
the words end, which is with the paths to look at or with something that is wrong with them.
To take up words is to perform the uses in their plan and then to end as the plan says
(`Session.takeArguments_succ_eq`).

So two command lines with the same plan are the same command line. In particular, words that
are nothing but options, complete with their values (`Options`), put their uses in front of
the plan of whatever follows them (`Options.plan_append`).
-/

namespace SuiteLint

open SuiteLint.Action

/-! ### Plans -/

/-- What a command line says. -/
structure Plan where
  /-- The uses of options, in order. -/
  uses : List Use
  /-- The paths to look at, or what is wrong with the words. -/
  ending : Except UsageFault (List Text)

namespace Plan

/-- The plan with more uses in front. -/
def after (uses : List Use) (plan : Plan) : Plan := { plan with uses := uses ++ plan.uses }

/-- How words end with the given paths, where some words met before are no options. -/
def endingIn (surplus paths : List Text) : Except UsageFault (List Text) :=
  if surplus.isEmpty then .ok paths else .error (.unrecognized surplus)

/-- The plan of words that have been read. `surplus` has the words met so far that are no
options. -/
def ofReadings (surplus : List Text) : List (Text × Reading) → Plan
  | [] => ⟨[], endingIn surplus []⟩
  | (word, .operand) :: words => ⟨[], endingIn surplus (word :: words.map Prod.fst)⟩
  | (word, .doubleHyphen) :: words => ⟨[], endingIn surplus (word :: words.map Prod.fst)⟩
  | (word, .unknown) :: words => ofReadings (surplus ++ [word]) words
  | (_, .option switch short attached) :: words =>
    match Use.ofOption switch short attached with
    | .error fault => ⟨[], .error fault⟩
    | .ok (uses, .complete) => (ofReadings surplus words).after uses
    | .ok (uses, .surplus word) => (ofReadings (surplus ++ [word]) words).after uses
    | .ok (uses, .awaits awaiting) =>
      match words with
      | (value, .operand) :: words =>
        (ofReadings surplus words).after (uses ++ [{ switch := awaiting, value }])
      | _ => ⟨[], .error (.missingValue awaiting)⟩

/-- The plan of a command line, unless a word cannot be read. -/
def ofWords (words : List Text) : Except UsageFault Plan :=
  (Reading.ofWords words).map (ofReadings [])

end Plan

namespace Session

/-! ### Following a plan -/

/-- Ends with paths, or with a complaint. -/
def conclude (ending : Except UsageFault (List Text)) (settings : Settings) : Action Settings :=
  match ending with
  | .ok paths => done { settings with paths }
  | .error fault => failUsage fault

/-- Performs the uses in a plan, and then ends as it says. -/
def follow (perform : Settings → Use → Action Settings) (settings : Settings) (plan : Plan) :
    Action Settings :=
  andThen (performAll perform settings plan.uses) (conclude plan.ending)

variable {perform : Settings → Use → Action Settings}

theorem performAll_append (settings : Settings) (uses others : List Use) :
    performAll perform settings (uses ++ others) =
      andThen (performAll perform settings uses) fun reached =>
        performAll perform reached others := by
  induction uses generalizing settings with
  | nil => rfl
  | cons use uses ih =>
    have hstep (list : List Use) : performAll perform settings (use :: list) =
        andThen (perform settings use) fun reached => performAll perform reached list := rfl
    rw [List.cons_append, hstep, hstep, andThen_assoc]
    exact congrArg _ (funext fun reached => ih reached)

theorem follow_after (settings : Settings) (uses : List Use) (plan : Plan) :
    follow perform settings (plan.after uses) =
      andThen (performAll perform settings uses) fun reached => follow perform reached plan := by
  have huses : performAll perform settings (plan.after uses).uses = _ :=
    performAll_append settings uses plan.uses
  rw [follow, huses, andThen_assoc]
  rfl

theorem follow_nil (settings : Settings) (ending : Except UsageFault (List Text)) :
    follow perform settings ⟨[], ending⟩ = conclude ending settings := rfl

theorem finish_eq (surplus paths : List Text) (settings : Settings) :
    takeWords.finish surplus { settings with paths } =
      follow perform settings ⟨[], Plan.endingIn surplus paths⟩ := by
  rw [follow_nil]
  cases surplus <;> rfl

theorem failUsage_andThen {α β : Type} (fault : UsageFault) (next : α → Action β) :
    andThen (failUsage fault) next = failUsage fault := by
  rw [failUsage, failUsage]
  -- the complaint is long, and which one it is does not matter
  generalize Help.complaint fault = complaint
  rfl

/-- **To take up words is to follow their plan.** -/
theorem takeWords_eq (surplus : List Text) (settings : Settings)
    (words : List (Text × Reading)) :
    takeWords perform surplus settings words =
      follow perform settings (Plan.ofReadings surplus words) := by
  -- the cases are those of the plan; where it has uses, they are performed before the rest
  induction surplus, words using Plan.ofReadings.induct generalizing settings with
  | case1 surplus => exact finish_eq surplus [] settings
  | case2 surplus word words => exact finish_eq surplus _ settings
  | case3 surplus word words => exact finish_eq surplus _ settings
  | case4 surplus word words ih => exact ih settings
  | case5 surplus word switch short attached words fault huses =>
    rw [takeWords, Plan.ofReadings, huses, follow_nil]
    exact failUsage_andThen fault _
  | case6 surplus word switch short attached words uses huses ih =>
    rw [takeWords, Plan.ofReadings, huses, follow_after]
    change andThen (performAll perform settings uses) (fun reached =>
      takeWords perform surplus reached words) = _
    exact congrArg _ (funext fun reached => ih reached)
  | case7 surplus word switch short attached words uses other huses ih =>
    rw [takeWords, Plan.ofReadings, huses, follow_after]
    change andThen (performAll perform settings uses) (fun reached =>
      takeWords perform (surplus ++ [other]) reached words) = _
    exact congrArg _ (funext fun reached => ih reached)
  | case8 surplus word switch short attached uses awaiting huses value words ih =>
    rw [takeWords, Plan.ofReadings, huses, follow_after]
    change andThen (performAll perform settings (uses ++ [⟨awaiting, value⟩])) (fun reached =>
      takeWords perform surplus reached words) = _
    exact congrArg _ (funext fun reached => ih reached)
  | case9 surplus word switch short attached words uses awaiting huses hnone =>
    rw [takeWords, Plan.ofReadings, huses]
    rcases words with _ | ⟨⟨value, reading⟩, words⟩
    · rfl
    · cases reading with
      | operand => exact absurd rfl (hnone value words)
      | doubleHyphen | unknown | option => rfl

/-- **To take up arguments is to follow their plan**, in which an argument file is taken up
one level further down. -/
theorem takeArguments_succ_eq (tree : FileTree) (depth : Nat) (settings : Settings)
    (arguments : List Text) :
    takeArguments tree (depth + 1) settings arguments =
      andThen (orUsage (Plan.ofWords arguments))
        (follow (Session.perform tree (takeArguments tree depth)) settings) := by
  change andThen (orUsage (Reading.ofWords arguments)) _ = _
  rw [Plan.ofWords]
  rcases Reading.ofWords arguments with fault | words
  · change andThen (failUsage fault) _ = andThen (failUsage fault) _
    rw [failUsage_andThen, failUsage_andThen]
  · exact takeWords_eq [] settings words

end Session

/-! ### One option

An option other than an argument file does something to the session, or changes one of the
settings, whatever the settings are. -/

namespace Use

/-- What an option does to the session. -/
def deed (tree : FileTree) (use : Use) : Action Unit :=
  match use.switch with
  | .help => andThen (Action.print Help.text) fun _ => Action.stop (.exit 0)
  | .extension => Session.addExtension use.value
  | .error => Session.setSeverity use.value .error
  | .ignore => Session.setSeverity use.value .ignore
  | .warning => Session.setSeverity use.value .warning
  | .configure => Session.configure use.value
  | .rulefile => Session.loadRules tree use.value
  | _ => done ()

/-- What an option does to the settings. -/
def change (use : Use) (settings : Settings) : Settings :=
  match use.switch with
  | .list => { settings with list := true }
  | .describe => { settings with describe := true }
  | .noFilenames => { settings with showNames := false }
  | .format => { settings with template := use.value }
  | .version => { settings with version := true }
  | .verbose => { settings with verbose := true }
  | .recursive => { settings with recursive := true }
  | _ => settings

theorem change_withPaths (use : Use) (settings : Settings) (paths : List Text) :
    use.change { settings with paths } = { use.change settings with paths } := by
  obtain ⟨switch, value⟩ := use
  cases switch <;> rfl

end Use

namespace Session

variable {tree : FileTree} {nested : Settings → List Text → Action Settings}

/-- **What performing an option comes to**, if it is not an argument file. -/
theorem perform_eq {use : Use} (h : use.switch ≠ .argumentfile) (settings : Settings) :
    perform tree nested settings use =
      andThen (use.deed tree) fun _ => done (use.change settings) := by
  obtain ⟨switch, value⟩ := use
  cases switch with
  | argumentfile => exact absurd rfl h
  | help =>
    have hdeed : Use.deed tree ⟨.help, value⟩ =
        andThen (Action.print Help.text) fun _ => Action.stop (.exit 0) := rfl
    rw [hdeed, andThen_assoc]
    rfl
  | _ => rfl

theorem perform_argumentfile (settings : Settings) (path : Text) :
    perform tree nested settings ⟨.argumentfile, path⟩ =
      andThen (argumentsIn tree path) (nested settings) := rfl

/-- Asks for all rules and puts others in their place, or gives up. -/
def revise (revision : Registry → Except Fault Registry) : Action Unit := fun session =>
  match revision session.askedAll.rules with
  | .ok rules => ⟨[], [], { session.askedAll with rules }, .ok ()⟩
  | .error fault => ⟨[], [], session.askedAll, .error (.fault fault)⟩

theorem setSeverity_eq_revise (name : Text) (severity : Severity) :
    setSeverity name severity = revise fun rules => rules.setSeverity name severity := by
  funext session
  exact setSeverity_eq name severity session

theorem configure_eq_revise (option : Text) :
    configure option =
      match Text.cutAt ':' option with
      | none => Action.fail .noColon
      | some (name, values) => revise fun rules => rules.configure name values := by
  funext session
  unfold configure
  rcases Text.cutAt ':' option with _ | ⟨name, values⟩
  · rfl
  · exact andThen_askAll (fun rules => rules.configure name values) session

/-- The rules in the rule pack at a path, of which there are none if it cannot be loaded. -/
def rulesAt (tree : FileTree) (path : Text) : List Rule :=
  match tree.content path with
  | .ok { pack := some (.rules added), .. } => added
  | _ => []

/-- Loading a rule pack adds the rules in it, and may complain. -/
theorem loadRules_eq (tree : FileTree) (path : Text) :
    ∃ complaint, ∀ session, loadRules tree path session =
      ⟨[], complaint,
        { session with rules := session.rules.addAll session.made (rulesAt tree path) },
        .ok ()⟩ := by
  rcases hlookup : tree.lookup path with obstacle | ⟨name, bytes, pack⟩ | ⟨name, entries⟩
  · have hexists : tree.pathExists path = false := by rw [FileTree.pathExists, hlookup]
    have hcontent : tree.content path = .error obstacle := by rw [FileTree.content, hlookup]
    rw [loadRules, rulesAt, hexists, hcontent]
    exact ⟨missingComplaint path, fun _ => rfl⟩
  · have hexists : tree.pathExists path = true := by rw [FileTree.pathExists, hlookup]
    have hcontent : tree.content path = .ok ⟨bytes, pack⟩ := by rw [FileTree.content, hlookup]
    rw [loadRules, rulesAt, hexists, hcontent]
    rcases pack with _ | added | reason
    · exact ⟨[], fun _ => rfl⟩
    · exact ⟨[], fun _ => rfl⟩
    · exact ⟨loadComplaint path reason, fun _ => rfl⟩
  · have hexists : tree.pathExists path = true := by rw [FileTree.pathExists, hlookup]
    have hcontent : tree.content path = .error .isFolder := by rw [FileTree.content, hlookup]
    rw [loadRules, rulesAt, hexists, hcontent]
    exact ⟨loadComplaint path (Obstacle.isFolder.message path), fun _ => rfl⟩

end Session

namespace Session

/-! ### After the arguments -/

/-- What is done once the arguments have been taken up. -/
def proceed (tree : FileTree) (settings : Settings) : Action Nat := do
  Action.update fun session => { session with settings }
  if settings.version then
    Action.print (Text.line version)
    return 0
  else if settings.list then
    listRules settings.verbose
    return 0
  else if settings.describe then
    describeRules settings.paths
    return 0
  else
    lintPaths tree settings.paths

theorem run_eq (tree : FileTree) (arguments : List Text) :
    run tree arguments =
      andThen (takeArguments tree nestingBound {} arguments) (proceed tree) :=
  andThen_assoc _ _ _

end Session

/-! ### Nothing but options -/

/-- Words that are options, each with its value if it takes one, and the uses in them. -/
inductive Options : List Text → List Use → Prop
  /-- There may be no words. -/
  | nil : Options [] []
  /-- A word that is complete in itself. -/
  | single {word : Text} {words : List Text} {switch : Switch} {short : Bool}
      {attached : Attachment} {uses more : List Use} :
      Reading.ofWord word = .ok (.option switch short attached) →
      Use.ofOption switch short attached = .ok (uses, .complete) →
      Options words more → Options (word :: words) (uses ++ more)
  /-- A word with an option at its end whose value is the next word. -/
  | pair {word value : Text} {words : List Text} {switch awaiting : Switch} {short : Bool}
      {attached : Attachment} {uses more : List Use} :
      Reading.ofWord word = .ok (.option switch short attached) →
      Use.ofOption switch short attached = .ok (uses, .awaits awaiting) →
      Reading.ofWord value = .ok .operand →
      Options words more →
      Options (word :: value :: words) (uses ++ [{ switch := awaiting, value }] ++ more)

theorem Reading.ofWords_cons_eq {word : Text} {reading : Reading} (words : List Text)
    (h : ofWord word = .ok reading) :
    ofWords (word :: words) = (ofWords words).map ((word, reading) :: ·) := by
  have hne : word ≠ "--" := by
    rintro rfl
    cases h
  rw [ofWords, if_neg hne, h]
  rfl

namespace Plan

variable {word value : Text} {switch awaiting : Switch} {short : Bool} {attached : Attachment}
  {uses : List Use}

theorem after_after (uses more : List Use) (plan : Plan) :
    (plan.after more).after uses = plan.after (uses ++ more) := by
  simp only [after, List.append_assoc]

theorem ofWords_single (hword : Reading.ofWord word = .ok (.option switch short attached))
    (huses : Use.ofOption switch short attached = .ok (uses, .complete)) (words : List Text) :
    ofWords (word :: words) = (ofWords words).map (after uses) := by
  rw [ofWords, ofWords, Reading.ofWords_cons_eq words hword]
  rcases Reading.ofWords words with fault | readings
  · rfl
  · change Except.ok (ofReadings [] ((word, .option switch short attached) :: readings)) = _
    rw [ofReadings, huses]
    rfl

theorem ofWords_pair (hword : Reading.ofWord word = .ok (.option switch short attached))
    (huses : Use.ofOption switch short attached = .ok (uses, .awaits awaiting))
    (hvalue : Reading.ofWord value = .ok .operand) (words : List Text) :
    ofWords (word :: value :: words) =
      (ofWords words).map (after (uses ++ [{ switch := awaiting, value }])) := by
  rw [ofWords, ofWords, Reading.ofWords_cons_eq _ hword, Reading.ofWords_cons_eq words hvalue]
  rcases Reading.ofWords words with fault | readings
  · rfl
  · change Except.ok (ofReadings []
      ((word, .option switch short attached) :: (value, .operand) :: readings)) = _
    rw [ofReadings, huses]
    rfl

/-- Operands are paths to look at. -/
theorem ofWords_operands {words : List Text}
    (h : ∀ word ∈ words, Reading.ofWord word = .ok .operand) :
    ofWords words = .ok ⟨[], .ok words⟩ := by
  rw [ofWords, Reading.ofWords_of_operands h]
  cases words with
  | nil => rfl
  | cons word words =>
    have hwords : (words.map fun word => (word, Reading.operand)).map Prod.fst = words := by
      rw [List.map_map]
      exact List.map_id words
    rw [List.map_cons]
    change Except.ok (Plan.mk [] (.ok (word :: _))) = _
    rw [hwords]

end Plan

/-- **Options come first in the plan of what follows them.** -/
theorem Options.plan_append {words : List Text} {uses : List Use} (h : Options words uses)
    (others : List Text) :
    Plan.ofWords (words ++ others) = (Plan.ofWords others).map (Plan.after uses) := by
  have hafter (uses more : List Use) :
      ((Plan.ofWords others).map (Plan.after more)).map (Plan.after uses) =
        (Plan.ofWords others).map (Plan.after (uses ++ more)) := by
    rcases Plan.ofWords others with fault | plan
    · rfl
    · exact congrArg Except.ok (Plan.after_after uses more plan)
  induction h with
  | nil =>
    rw [List.nil_append]
    rcases Plan.ofWords others with fault | plan <;> rfl
  | single hword huses _ ih =>
    rw [List.cons_append, Plan.ofWords_single hword huses, ih, hafter]
  | pair hword huses hvalue _ ih =>
    rw [List.cons_append, List.cons_append, Plan.ofWords_pair hword huses hvalue, ih, hafter]

/-- Options alone ask for no paths. -/
theorem Options.plan {words : List Text} {uses : List Use} (h : Options words uses) :
    Plan.ofWords words = .ok ⟨uses, .ok []⟩ := by
  have happend := h.plan_append []
  rw [List.append_nil] at happend
  rw [happend, show Plan.ofWords [] = .ok ⟨[], .ok []⟩ from rfl]
  change Except.ok (Plan.mk (uses ++ []) (.ok [])) = _
  rw [List.append_nil]

end SuiteLint
