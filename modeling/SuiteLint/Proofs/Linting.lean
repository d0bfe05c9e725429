import Mathlib.Tactic
import SuiteLint.Proofs.Actions
import SuiteLint.Proofs.AppliedRules

/-!
# What linting does to a session

There are three things that linting can do to a session: it asks for the rules of a
scope, it counts, and it changes the name that is still to be shown. What none of
these takes away is there after linting as well (`Session.OutlastsLinting.lintPath`). So the
extensions and the settings are the same for all files of a run, and whether a file is
accepted does not depend on the files before it (`Session.forEach_lintFile`). The rules
are the same, too, if there is nothing to choose between them.

In the other direction, linting looks at the rules, the extensions, the counts and
three of the settings, and, if there is something to choose, at the names of the rules
that were made. Whatever name was still to be shown before does not matter, since every
file begins with its own (`Session.relates_lintPath`).
-/

namespace SuiteLint

namespace Session

open SuiteLint.Action

/-! ### What linting leaves alone -/

/-- A property of sessions that reporting does not take away. -/
structure OutlastsReporting (P : Session → Prop) : Prop where
  /-- It outlasts any change of the name that is to be shown. -/
  heading : ∀ session heading, P session → P { session with heading }
  /-- It outlasts counting. -/
  counts : ∀ session counts, P session → P { session with counts }

namespace OutlastsReporting

variable {P : Session → Prop}

theorem showHeading (hP : OutlastsReporting P) : Maintains P showHeading := by
  refine maintains_bind maintains_current fun session => ?_
  rcases session.heading with _ | _ | name
  · exact maintains_fail .nothingOpen
  · exact maintains_done ()
  · exact maintains_bind (maintains_print _) fun _ =>
      maintains_update fun session => hP.heading session _

theorem report (hP : OutlastsReporting P) (report : Report) :
    Maintains P (Session.report report) := by
  refine maintains_bind hP.showHeading fun _ => ?_
  refine maintains_bind (maintains_update fun session => hP.counts session _) fun _ => ?_
  refine maintains_bind maintains_current fun session => ?_
  exact maintains_bind (maintains_ofExcept _) fun text => maintains_print _

theorem reportRemark (hP : OutlastsReporting P) (rule : Rule) (path : Text) (remark : Remark) :
    Maintains P (reportRemark rule path remark) := by
  unfold Session.reportRemark
  split
  · exact maintains_passOver (hP.report _)
  · exact hP.report _

theorem reportVerdict (hP : OutlastsReporting P) (path : Text) (application : Rule × Verdict) :
    Maintains P (reportVerdict path application) := by
  obtain ⟨rule, fault | remarks⟩ := application
  · exact maintains_fail _
  · exact maintains_forEach (hP.reportRemark rule path) remarks

end OutlastsReporting

/-- A property of sessions that nothing in linting takes away. -/
structure OutlastsLinting (P : Session → Prop) : Prop extends OutlastsReporting P where
  /-- It outlasts that the rules of a scope are asked for. -/
  asked : ∀ session scope, P session → P (session.asked scope)

namespace OutlastsLinting

variable {P : Session → Prop}

theorem ask (hP : OutlastsLinting P) (scope : Scope) : Maintains P (ask scope) :=
  maintains_bind (maintains_update fun session => hP.asked session scope) fun _ =>
    maintains_bind maintains_current fun _ => maintains_done _

theorem playRound (hP : OutlastsLinting P) (path : Text) (round : Round) :
    Maintains P (playRound path round) :=
  maintains_bind (hP.ask round.1) fun _ =>
    maintains_forEach (hP.toOutlastsReporting.reportVerdict path) _

theorem lintDocument (hP : OutlastsLinting P) (document : Document) :
    Maintains P (lintDocument document) :=
  maintains_forEach (hP.playRound document.path) _

end OutlastsLinting

/-- **What a round does**: the rules of its scope are asked for, and their verdicts are
reported. -/
theorem playRound_eq (path : Text) (round : Round) (session : Session) :
    playRound path round session =
      forEach (reportVerdict path) (round.applications (session.asked round.1).rules)
        (session.asked round.1) :=
  rfl

theorem playRound_of_coherent {session : Session} (h : session.rules.Coherent) (path : Text)
    (round : Round) :
    ∃ made, playRound path round session =
      forEach (reportVerdict path) (round.applications session.rules) { session with made } := by
  rw [playRound_eq, asked_of_coherent h]
  exact ⟨_, rfl⟩

/-- Lints a file, whatever its extension. -/
def examine (tree : FileTree) (path : Text) : Action Unit := do
  openFile path
  Action.complain (Document.load tree path).2
  lintDocument (Document.load tree path).1

/-- The session once a file was begun. -/
def opened (path : Text) (session : Session) : Session :=
  { session with heading := some (if session.settings.showNames then some path else none) }

/-- What comes of linting a file: what comes of its rounds, after the complaint. -/
theorem examine_eq (tree : FileTree) (path : Text) (session : Session) :
    let linting := lintDocument (Document.load tree path).1 (session.opened path)
    examine tree path session =
      ⟨linting.out, (Document.load tree path).2 ++ linting.err, linting.session,
        linting.result⟩ :=
  rfl

theorem OutlastsLinting.examine {P : Session → Prop} (hP : OutlastsLinting P) (tree : FileTree)
    (path : Text) : Maintains P (examine tree path) :=
  maintains_bind (maintains_update fun session => hP.heading session _) fun _ =>
    maintains_bind (maintains_complain _) fun _ => hP.lintDocument _

/-- To lint a file is to examine it, if its extension is accepted. -/
theorem lintFile_eq (tree : FileTree) (path : Text) (session : Session) :
    lintFile tree path session =
      if session.accepts path then examine tree path session else done () session := by
  unfold lintFile
  change andThen current _ session = _
  rw [andThen_of_ok (show current session = ⟨[], [], session, .ok session⟩ from rfl)]
  split <;> rfl

theorem OutlastsLinting.lintFile {P : Session → Prop} (hP : OutlastsLinting P) (tree : FileTree)
    (path : Text) : Maintains P (lintFile tree path) := by
  intro session hsession
  rw [lintFile_eq]
  split
  · exact hP.examine tree path session hsession
  · exact hsession

/-- **What outlasts linting**, also if it gives up. -/
theorem OutlastsLinting.lintPath {P : Session → Prop} (hP : OutlastsLinting P) (tree : FileTree)
    (path : Text) : Maintains P (lintPath tree path) := by
  unfold Session.lintPath
  rcases tree.lookup path with obstacle | ⟨name, content⟩ | ⟨name, entries⟩
  · exact maintains_complain _
  · exact hP.lintFile tree path
  · exact maintains_bind maintains_current fun _ => maintains_forEach (hP.lintFile tree) _

/-- The session without what linting changes. -/
def frame (session : Session) : Session :=
  { session with rules := [], made := [], counts := none, heading := none }

theorem outlastsLinting_frame (frame : Session) :
    OutlastsLinting fun session => session.frame = frame where
  asked _ _ h := h
  heading _ _ h := h
  counts _ _ h := h

/-- Linting leaves rules alone between which there is nothing to choose. -/
theorem outlastsLinting_rules {rules : Registry} (hrules : rules.Coherent) :
    OutlastsLinting fun session => session.rules = rules where
  asked session scope h := by
    rw [rules_asked_of_coherent (h ▸ hrules), h]
  heading _ _ h := h
  counts _ _ h := h

theorem accepts_of_frame {s t : Session} (h : s.frame = t.frame) : s.accepts = t.accepts := by
  change s.frame.accepts = t.frame.accepts
  rw [h]

theorem settings_of_frame {s t : Session} (h : s.frame = t.frame) : s.settings = t.settings := by
  change s.frame.settings = t.frame.settings
  rw [h]

/-- **Linting files is examining those that are accepted**, which can be told
beforehand. -/
theorem forEach_lintFile (tree : FileTree) (files : List Text) (session : Session) :
    forEach (lintFile tree) files session =
      forEach (examine tree) (files.filter session.accepts) session := by
  induction files generalizing session with
  | nil => rfl
  | cons file files ih =>
    rw [forEach, List.filter_cons]
    by_cases haccepts : session.accepts file = true
    · rw [if_pos haccepts, forEach]
      have hfile : lintFile tree file session = examine tree file session := by
        rw [lintFile_eq, if_pos haccepts]
      refine andThen_congr hfile fun _ => ?_
      have hframe := (outlastsLinting_frame session.frame).lintFile tree file session rfl
      rw [ih, accepts_of_frame hframe]
    · have hfile : lintFile tree file session = done () session := by
        rw [lintFile_eq, if_neg haccepts]
      rw [if_neg haccepts, andThen_of_ok hfile]
      exact ih session

/-! ### What linting looks at -/

/-- Two sessions that linting cannot tell apart. -/
structure Like (s t : Session) : Prop where
  /-- They have the same rules. -/
  rules : s.rules = t.rules
  /-- If there is something to choose, the same rules were made. -/
  made : s.rules.Coherent ∨ s.made = t.made
  /-- They accept the same extensions. -/
  extensions : s.extensions = t.extensions
  /-- They both show names of files, or both do not. -/
  showNames : s.settings.showNames = t.settings.showNames
  /-- They show findings in the same way. -/
  template : s.settings.template = t.settings.template
  /-- They both look into folders recursively, or both do not. -/
  recursive : s.settings.recursive = t.settings.recursive
  /-- They have counted the same. -/
  counts : s.counts = t.counts

theorem Like.trans {s t u : Session} (hst : Like s t) (htu : Like t u) : Like s u where
  rules := hst.rules.trans htu.rules
  made := by
    have hmade := htu.made
    rw [← hst.rules] at hmade
    exact hst.made.elim .inl fun h => hmade.imp_right h.trans
  extensions := hst.extensions.trans htu.extensions
  showNames := hst.showNames.trans htu.showNames
  template := hst.template.trans htu.template
  recursive := hst.recursive.trans htu.recursive
  counts := hst.counts.trans htu.counts

/-- Two such sessions, in which also the same name is still to be shown. -/
structure LikeInFile (s t : Session) : Prop extends Like s t where
  /-- The same name is still to be shown. -/
  heading : s.heading = t.heading

theorem LikeInFile.like (s t : Session) (h : LikeInFile s t) : Like s t := h.toLike

theorem relates_showHeading : Relates LikeInFile LikeInFile showHeading := by
  refine relates_current_bind fun s t h => ?_
  rw [← h.heading]
  rcases s.heading with _ | _ | name
  · exact relates_fail .nothingOpen s t h
  · exact relates_done () s t h
  · exact relates_bind (fun _ _ h => h) (relates_print _)
      (fun _ => relates_update fun _ _ h => { h with heading := rfl }) s t h

theorem relates_report (report : Report) :
    Relates LikeInFile LikeInFile (Session.report report) := by
  refine relates_bind (fun _ _ h => h) relates_showHeading fun _ => ?_
  refine relates_bind (fun _ _ h => h)
    (relates_update fun _ _ h => { h with counts := by rw [h.counts] }) fun _ => ?_
  refine relates_current_bind fun s t h => ?_
  rw [← h.template]
  exact relates_bind (fun _ _ h => h) (relates_ofExcept _) (fun _ => relates_print _) s t h

theorem relates_reportVerdict (path : Text) (application : Rule × Verdict) :
    Relates LikeInFile LikeInFile (reportVerdict path application) := by
  obtain ⟨rule, fault | remarks⟩ := application
  · exact relates_fail _
  · refine relates_forEach (fun remark => ?_) remarks
    unfold reportRemark
    split
    · exact relates_passOver (relates_report _)
    · exact relates_report _

/-- Asking for rules gives the same rules. -/
theorem LikeInFile.asked {s t : Session} (h : LikeInFile s t) (scope : Scope) :
    LikeInFile (s.asked scope) (t.asked scope) := by
  rcases h.made with hcoherent | hmade
  · rw [asked_of_coherent hcoherent, asked_of_coherent (h.rules ▸ hcoherent)]
    exact { h with made := .inl hcoherent }
  · have hrules : (s.asked scope).rules = (t.asked scope).rules := by
      simp only [Session.asked, h.rules, hmade]
    have hmade' : (s.asked scope).made = (t.asked scope).made := by
      simp only [Session.asked, h.rules, hmade]
    exact { h with rules := hrules, made := .inr hmade' }

theorem relates_playRound (path : Text) (round : Round) :
    Relates LikeInFile LikeInFile (playRound path round) := by
  intro s t h
  rw [playRound_eq, playRound_eq, ← (h.asked round.1).rules]
  exact relates_forEach (relates_reportVerdict path) _ _ _ (h.asked round.1)

theorem relates_lintDocument (document : Document) :
    Relates LikeInFile LikeInFile (lintDocument document) :=
  relates_forEach (relates_playRound document.path) _

/-- A file begins with its own name, whatever name was to be shown before. -/
theorem relates_openFile (path : Text) : Relates Like LikeInFile (openFile path) :=
  relates_update fun _ _ h => { h with heading := by rw [h.showNames] }

theorem relates_examine (tree : FileTree) (path : Text) :
    Relates Like Like (examine tree path) := by
  refine relates_bind LikeInFile.like (relates_openFile path) fun _ => ?_
  refine relates_bind LikeInFile.like (relates_complain _) fun _ s t h => ?_
  obtain ⟨hout, herr, hsession, hresult⟩ := relates_lintDocument _ s t h
  exact ⟨hout, herr, hsession.toLike, hresult⟩

theorem Like.accepts {s t : Session} (h : Like s t) : s.accepts = t.accepts := by
  funext path
  rw [Session.accepts, Session.accepts, h.extensions]

theorem relates_lintFile (tree : FileTree) (path : Text) :
    Relates Like Like (lintFile tree path) := by
  intro s t h
  rw [lintFile_eq, lintFile_eq, h.accepts]
  split
  · exact relates_examine tree path s t h
  · exact relates_done () s t h

theorem relates_lintPath (tree : FileTree) (path : Text) :
    Relates Like Like (lintPath tree path) := by
  unfold lintPath
  rcases tree.lookup path with obstacle | ⟨name, content⟩ | ⟨name, entries⟩
  · exact relates_complain _
  · exact relates_lintFile tree path
  · refine relates_current_bind fun s t h => ?_
    rw [← h.recursive]
    exact relates_forEach (relates_lintFile tree) _ s t h

end Session

end SuiteLint
