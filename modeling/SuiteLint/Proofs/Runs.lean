import Mathlib.Tactic
import SuiteLint.Proofs.Linting
import SuiteLint.Session.Run

/-!
# Runs that lint

If all words of the command line are operands, nothing is asked for but to lint what
they lead to: the run lints one path after the other and then gives its result
(`Session.run_of_operands`). A few options may come before the operands that say how it is
done (`Wish`), and change nothing else (`Session.run_of_wishes`). Which paths there are
in all does not matter while one of them is linted, so runs that begin with the same paths
can be compared (`Session.forEach_begun`).
-/

namespace SuiteLint

open SuiteLint.Action

/-! ### Reading words -/

theorem Reading.ofWords_cons {word : Text} {words : List Text} {reading : Reading}
    {readings : List (Text × Reading)} (hne : word ≠ "--") (hword : ofWord word = .ok reading)
    (hwords : ofWords words = .ok readings) :
    ofWords (word :: words) = .ok ((word, reading) :: readings) := by
  rw [ofWords, if_neg hne, hword, hwords]
  rfl

theorem Reading.ofWords_of_operands {words : List Text}
    (h : ∀ word ∈ words, ofWord word = .ok .operand) :
    ofWords words = .ok (words.map fun word => (word, .operand)) := by
  induction words with
  | nil => rfl
  | cons word words ih =>
    obtain ⟨hword, hwords⟩ := List.forall_mem_cons.mp h
    have hne : word ≠ "--" := by
      rintro rfl
      cases hword
    exact ofWords_cons hne hword (ih hwords)

/-- An option on how files are found and findings are shown. -/
inductive Wish
  /-- Do not show the names of files. -/
  | noNames
  /-- Look into folders again and again. -/
  | again
  /-- Show findings with the given template. -/
  | template (given : Text)

namespace Wish

/-- The word for it on the command line. -/
def word : Wish → Text
  | noNames => "--no-filenames"
  | again => "--recursive"
  | template given => "--format=" ++ given

/-- How the word is read. -/
def reading : Wish → Reading
  | noNames => .option .noFilenames false .nothing
  | again => .option .recursive false .nothing
  | template given => .option .format false (.equals given)

/-- What it changes. -/
def change (settings : Settings) : Wish → Settings
  | noNames => { settings with showNames := false }
  | again => { settings with recursive := true }
  | template given => { settings with template := given }

/-- The settings that options lead to. -/
def settings (wishes : List Wish) (paths : List Text) : Settings :=
  { wishes.foldl change {} with paths }

theorem ofWord_word (wish : Wish) :
    Reading.ofWord wish.word = .ok wish.reading ∧ wish.word ≠ "--" := by
  cases wish with
  | noNames => exact ⟨rfl, by decide⟩
  | again => exact ⟨rfl, by decide⟩
  | template given =>
    refine ⟨rfl, fun h => ?_⟩
    -- the third letter is there in one of them only
    have hthird : some 'f' = none := congrArg (fun text : Text => text[2]?) h
    cases hthird

theorem ofWords_append (wishes : List Wish) {words : List Text} {readings : List (Text × Reading)}
    (h : Reading.ofWords words = .ok readings) :
    Reading.ofWords (wishes.map word ++ words) =
      .ok (wishes.map (fun wish => (wish.word, wish.reading)) ++ readings) := by
  induction wishes with
  | nil => exact h
  | cons wish wishes ih =>
    obtain ⟨hword, hne⟩ := wish.ofWord_word
    exact Reading.ofWords_cons hne hword ih

/-- None of the options asks for anything but linting. -/
theorem lints_settings (wishes : List Wish) (paths : List Text) :
    (settings wishes paths).version = false ∧ (settings wishes paths).list = false ∧
      (settings wishes paths).describe = false := by
  have hfold (start : Settings)
      (hstart : start.version = false ∧ start.list = false ∧ start.describe = false) :
      (wishes.foldl change start).version = false ∧ (wishes.foldl change start).list = false ∧
        (wishes.foldl change start).describe = false := by
    induction wishes generalizing start with
    | nil => exact hstart
    | cons wish wishes ih =>
      refine ih (change start wish) ?_
      cases wish <;> exact hstart
  exact hfold {} ⟨rfl, rfl, rfl⟩

/-- Names of files are shown unless one of the options asks for the contrary. -/
theorem showNames_settings (wishes : List Wish) (paths : List Text) :
    (settings wishes paths).showNames = true ↔ noNames ∉ wishes := by
  have hfold (start : Settings) : (wishes.foldl change start).showNames = true ↔
      start.showNames = true ∧ noNames ∉ wishes := by
    induction wishes generalizing start with
    | nil => simp
    | cons wish wishes ih =>
      rw [List.foldl_cons, ih]
      cases wish <;> simp [change]
  exact (hfold {}).trans (and_iff_right rfl)

/-- Findings are shown in the default template unless one of the options gives another. -/
theorem template_settings {wishes : List Wish} (paths : List Text)
    (h : ∀ given, template given ∉ wishes) :
    (settings wishes paths).template = defaultTemplate := by
  have hfold (start : Settings) : (wishes.foldl change start).template = start.template := by
    induction wishes generalizing start with
    | nil => rfl
    | cons wish wishes ih =>
      rw [List.foldl_cons, ih fun given hmem => h given (List.mem_cons_of_mem wish hmem)]
      cases wish with
      | noNames | again => rfl
      | template given => exact absurd List.mem_cons_self (h given)
  exact hfold {}

end Wish

namespace Session

/-- Operands are taken up as the paths to look at. -/
theorem takeWords_of_operands (perform : Settings → Use → Action Settings) (settings : Settings)
    (words : List Text) (session : Session) :
    takeWords perform [] settings (words.map fun word => (word, .operand)) session =
      ⟨[], [], session, .ok { settings with paths := words }⟩ := by
  cases words with
  | nil => rfl
  | cons word words =>
    have hwords : (words.map fun word => (word, Reading.operand)).map Prod.fst = words := by
      rw [List.map_map]
      exact List.map_id words
    rw [List.map_cons, takeWords, hwords]
    rfl

/-- The session in which a run without options begins to lint. -/
def begun (session : Session) (paths : List Text) : Session :=
  { session with settings := { paths }, counts := some {} }

theorem like_begun (session : Session) (paths paths' : List Text) :
    Like (session.begun paths) (session.begun paths') :=
  ⟨rfl, .inr rfl, rfl, rfl, rfl, rfl, rfl⟩

/-- **Runs that begin with the same paths begin in the same way**, whatever paths follow,
and the extensions are as they were at first. So are the rules, if there is nothing to choose
between them. -/
theorem forEach_begun (tree : FileTree) (session : Session) (before : List Text) :
    ∃ (out err : Text) (result : Except Stop Unit) (reached : List Text → Session),
      (∀ paths, forEach (lintPath tree) before (session.begun paths) =
        ⟨out, err, reached paths, result⟩) ∧
      (∀ paths paths', Like (reached paths) (reached paths')) ∧
      ∀ paths, (session.rules.Coherent → (reached paths).rules = session.rules) ∧
        (reached paths).accepts = session.accepts := by
  have hlike (paths paths' : List Text) := relates_forEach (relates_lintPath tree) before _ _
    (like_begun session paths paths')
  rcases hfirst : forEach (lintPath tree) before (session.begun []) with ⟨out, err, first, result⟩
  refine ⟨out, err, result,
    fun paths => (forEach (lintPath tree) before (session.begun paths)).session,
    fun paths => ?_, fun paths paths' => (hlike paths paths').session, fun paths => ?_⟩
  · obtain ⟨hout, herr, -, hresult⟩ := hlike [] paths
    rw [hfirst] at hout herr hresult
    obtain ⟨rfl, rfl, rfl⟩ : out = _ ∧ err = _ ∧ result = _ := ⟨hout, herr, hresult⟩
    rfl
  · refine ⟨fun hcoherent => ?_, ?_⟩
    · exact maintains_forEach ((outlastsLinting_rules hcoherent).lintPath tree) before
        (session.begun paths) rfl
    · have hframe := maintains_forEach ((outlastsLinting_frame _).lintPath tree) before
        (session.begun paths) rfl
      have haccepts : _ = (session.begun paths).accepts := accepts_of_frame hframe
      exact haccepts

/-- The outcome of a run whose linting had the given outcome. -/
def concluded (linting : Outcome Unit) : Outcome Nat :=
  ⟨linting.out, linting.err, linting.session,
    linting.result.map fun _ => status (linting.session.counts.getD {}).errors⟩

theorem lintPaths_eq (tree : FileTree) (paths : List Text) (session : Session) :
    lintPaths tree paths session =
      concluded (forEach (lintPath tree) paths { session with counts := some {} }) := by
  unfold lintPaths concluded
  change andThen (forEach (lintPath tree) paths) _ { session with counts := some {} } = _
  rcases hpaths : forEach (lintPath tree) paths { session with counts := some {} } with
    ⟨out, err, after, stop | _⟩
  · rw [andThen_of_error hpaths]
    rfl
  · rw [andThen_of_ok hpaths]
    change Outcome.mk (out ++ []) (err ++ []) after _ = _
    rw [List.append_nil, List.append_nil]
    rfl

/-- The options are taken up one after the other, and then the operands. -/
theorem takeWords_of_wishes (tree : FileTree) (nested : Settings → List Text → Action Settings)
    (wishes : List Wish) (settings : Settings) (words : List Text) (session : Session) :
    takeWords (perform tree nested) [] settings
        (wishes.map (fun wish => (wish.word, wish.reading)) ++
          words.map fun word => (word, .operand)) session =
      ⟨[], [], session, .ok { wishes.foldl Wish.change settings with paths := words }⟩ := by
  induction wishes generalizing settings with
  | nil => exact takeWords_of_operands _ settings words session
  | cons wish wishes ih =>
    rw [List.foldl_cons, ← ih]
    cases wish with
    | noNames =>
      rw [List.map_cons, List.cons_append, Wish.reading, takeWords]
      rfl
    | again =>
      rw [List.map_cons, List.cons_append, Wish.reading, takeWords]
      rfl
    | template given =>
      rw [List.map_cons, List.cons_append, Wish.reading, takeWords]
      rfl

/-- The session in which a run with such options begins to lint. -/
def begunWith (session : Session) (wishes : List Wish) (paths : List Text) : Session :=
  { session with settings := Wish.settings wishes paths, counts := some {} }

/-- **A run with options on how to lint lints what its operands lead to.** -/
theorem run_of_wishes (wishes : List Wish) {words : List Text}
    (h : ∀ word ∈ words, Reading.ofWord word = .ok .operand) (tree : FileTree)
    (session : Session) :
    run tree (wishes.map Wish.word ++ words) session =
      concluded (forEach (lintPath tree) words (session.begunWith wishes words)) := by
  have htake : takeArguments tree nestingBound {} (wishes.map Wish.word ++ words) session =
      ⟨[], [], session, .ok (Wish.settings wishes words)⟩ := by
    change andThen (orUsage (Reading.ofWords (wishes.map Wish.word ++ words))) _ session = _
    rw [Wish.ofWords_append wishes (Reading.ofWords_of_operands h)]
    exact takeWords_of_wishes tree _ wishes {} words session
  have hread : readArguments tree (wishes.map Wish.word ++ words) session =
      ⟨[], [], { session with settings := Wish.settings wishes words },
        .ok (Wish.settings wishes words)⟩ := by
    change andThen (takeArguments tree nestingBound {} _) _ session = _
    rw [andThen_of_ok htake]
    rfl
  -- what is left is the choice of what to do, and nothing but linting was asked for
  change andThen (readArguments tree _) _ session = _
  rw [andThen_of_ok hread]
  obtain ⟨hversion, hlist, hdescribe⟩ := Wish.lints_settings wishes words
  simp only [hversion, hlist, hdescribe, Bool.false_eq_true, if_false]
  exact lintPaths_eq tree words { session with settings := Wish.settings wishes words }

/-- **A run without options lints what its arguments lead to.** -/
theorem run_of_operands {words : List Text}
    (h : ∀ word ∈ words, Reading.ofWord word = .ok .operand) (tree : FileTree)
    (session : Session) :
    run tree words session =
      concluded (forEach (lintPath tree) words (session.begun words)) :=
  run_of_wishes [] h tree session

theorem alike_concluded {a b : Outcome Unit} (h : Alike Like a b) :
    Alike Like (concluded a) (concluded b) := by
  obtain ⟨hout, herr, hsession, hresult⟩ := h
  refine ⟨hout, herr, hsession, ?_⟩
  simp only [concluded]
  rw [hresult, hsession.counts]

end Session

end SuiteLint
