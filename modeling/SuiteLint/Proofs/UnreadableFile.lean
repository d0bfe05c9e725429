import Mathlib.Tactic
import SuiteLint.Proofs.Decoding
import SuiteLint.Proofs.Runs
import SuiteLint.Proofs.TunedRules

/-!
# A file that cannot be read among others

A file whose bytes are not UTF-8 is complained about, and then linted as a document
without tables and without text. The rules on the text of a file cannot be applied to
it: one of them that is not ignored ends the run, and what comes after the file is not
looked at. If all of them are ignored, the complaint is all that the file adds.
-/

namespace SuiteLint

open SuiteLint.Action

/-! ### The document of an unreadable file -/

/-- Some rule on the text of a file is applied. -/
def Registry.NeedsText (severity : Text → Severity) : Prop :=
  severity "LineTooLong" ≠ .ignore ∨ severity "TrailingBlankLines" ≠ .ignore ∨
    severity "FileTooLong" ≠ .ignore

instance (severity : Text → Severity) : Decidable (Registry.NeedsText severity) :=
  inferInstanceAs (Decidable (_ ∨ _))

namespace Registry

/-- The standing rules on any file. -/
theorem active_general_tuned (limits : Limits) (severity : Text → Severity) :
    (tuned limits severity).active .general =
      ([.ofCheck (.general (.lineLength limits.lineLength)) (severity "LineTooLong"),
        .ofCheck (.general (.blankEnd limits.blankEnd)) (severity "TrailingBlankLines"),
        .ofCheck (.general (.fileLength limits.fileLength)) (severity "FileTooLong"),
        .ofCheck (.general .variableCase) (severity "GlobalVariableIsNotAllUpperCase")] :
          List Rule).filter Rule.active :=
  rfl

/-- They have nothing to say about it, or need its text. -/
theorem verdict_empty {limits : Limits} {severity : Text → Severity} {tree : FileTree}
    {path : Text} {application : Rule × Verdict}
    (h : application ∈ (tuned limits severity).onDocument .general (Document.empty tree path)) :
    application.2 = .ok [] ∨ application.2 = .error .unread := by
  obtain ⟨rule, hrule, rfl⟩ := List.mem_map.mp h
  rw [active_general_tuned, List.mem_filter] at hrule
  simp only [List.mem_cons, List.not_mem_nil, or_false] at hrule
  obtain ⟨rfl | rfl | rfl | rfl, -⟩ := hrule
  · exact .inr rfl
  · exact .inr rfl
  · exact .inr rfl
  · exact .inl rfl

/-- Whether one of them needs its text can be told from the severities. -/
theorem exists_verdict_empty_iff {limits : Limits} {severity : Text → Severity}
    {tree : FileTree} {path : Text} :
    (∃ application ∈ (tuned limits severity).onDocument .general (Document.empty tree path),
      application.2 = .error .unread) ↔ NeedsText severity := by
  unfold onDocument NeedsText
  rw [active_general_tuned]
  constructor
  · rintro ⟨_, happlication, hunread⟩
    obtain ⟨rule, hrule, rfl⟩ := List.mem_map.mp happlication
    obtain ⟨hrule, hactive⟩ := List.mem_filter.mp hrule
    simp only [List.mem_cons, List.not_mem_nil, or_false] at hrule
    rcases hrule with rfl | rfl | rfl | rfl
    · exact .inl (of_decide_eq_true hactive)
    · exact .inr (.inl (of_decide_eq_true hactive))
    · exact .inr (.inr (of_decide_eq_true hactive))
    · cases hunread
  · have hfirst : ∀ {rule : Rule} {rules : List Rule}, rule.severity ≠ .ignore → rule ∈ rules →
        rule.check.onDocument (Document.empty tree path) = .error .unread →
        ∃ application ∈ (rules.filter Rule.active).map fun rule =>
          (rule, rule.check.onDocument (Document.empty tree path)),
          application.2 = .error .unread :=
      fun hactive hmem hunread => ⟨_, List.mem_map_of_mem
        (List.mem_filter.mpr ⟨hmem, decide_eq_true hactive⟩), hunread⟩
    rintro (hlines | hblank | hlength)
    · exact hfirst hlines List.mem_cons_self rfl
    · exact hfirst hblank (List.mem_cons_of_mem _ List.mem_cons_self) rfl
    · exact hfirst hlength
        (List.mem_cons_of_mem _ (List.mem_cons_of_mem _ List.mem_cons_self)) rfl

end Registry

/-! ### Linting an unreadable file -/

namespace Session

theorem forEach_reportVerdict_silent {path : Text} {applications : List (Rule × Verdict)}
    (h : ∀ application ∈ applications, application.2 = .ok []) (session : Session) :
    forEach (reportVerdict path) applications session = ⟨[], [], session, .ok ()⟩ := by
  induction applications with
  | nil => rfl
  | cons application applications ih =>
    obtain ⟨hfirst, hrest⟩ := List.forall_mem_cons.mp h
    obtain ⟨rule, _⟩ := application
    obtain rfl := hfirst
    rw [forEach, andThen_of_ok (show reportVerdict path (rule, .ok []) session = _ from rfl),
      ih hrest]
    rfl

theorem forEach_reportVerdict_unread {path : Text} {applications : List (Rule × Verdict)}
    (h : ∀ application ∈ applications, application.2 = .ok [] ∨ application.2 = .error .unread)
    (hunread : ∃ application ∈ applications, application.2 = .error .unread)
    (session : Session) :
    forEach (reportVerdict path) applications session =
      ⟨[], [], session, .error (.fault .unread)⟩ := by
  induction applications with
  | nil => simp at hunread
  | cons application applications ih =>
    obtain ⟨hfirst, hrest⟩ := List.forall_mem_cons.mp h
    obtain ⟨rule, _⟩ := application
    rw [forEach]
    rcases hfirst with rfl | rfl
    · have hlater : ∃ application ∈ applications, application.2 = .error .unread := by
        simpa using hunread
      rw [andThen_of_ok (show reportVerdict path (rule, .ok []) session = _ from rfl),
        ih hrest hlater]
      rfl
    · exact andThen_of_error rfl

/-- A round of standing rules on a document. -/
theorem playRound_tuned {limits : Limits} {severity : Text → Severity} {session : Session}
    (hrules : session.rules = Registry.tuned limits severity) (path : Text) (scope : Scope)
    (document : Document) :
    ∃ made, playRound path (scope, .document document) session =
      forEach (reportVerdict path) ((Registry.tuned limits severity).onDocument scope document)
        { session with made } := by
  have hcoherent : session.rules.Coherent := hrules ▸ Registry.coherent_tuned limits severity
  obtain ⟨made, hround⟩ := playRound_of_coherent hcoherent path (scope, .document document)
  refine ⟨made, ?_⟩
  rw [← hrules]
  exact hround

/-- **An unreadable file is complained about.** A rule that needs its text then ends the
run, and if there is none, nothing else happens. -/
theorem examine_unreadable {tree : FileTree} {path : Text} {content : Content}
    {malformed : Utf8.Malformed} {limits : Limits} {severity : Text → Severity}
    {session : Session} (hcontent : tree.content path = .ok content)
    (hbytes : Utf8.decode content.bytes = .error malformed)
    (hrules : session.rules = Registry.tuned limits severity) :
    ∃ made, examine tree path session =
      ⟨[], Document.complaint path (.malformed malformed), { session.opened path with made },
        if Registry.NeedsText severity then .error (.fault .unread) else .ok ()⟩ := by
  have hrounds : (Document.empty tree path).rounds =
      [(.general, .document (Document.empty tree path)),
        (.resource, .document (Document.empty tree path))] := rfl
  have hopened : (session.opened path).rules = Registry.tuned limits severity := hrules
  obtain ⟨made, hgeneral⟩ := playRound_tuned hopened (Document.empty tree path).path .general
    (Document.empty tree path)
  rw [examine_eq, Document.load_of_malformed hcontent hbytes, lintDocument, hrounds, forEach]
  by_cases hneeds : Registry.NeedsText severity
  · rw [forEach_reportVerdict_unread (fun _ => Registry.verdict_empty)
      (Registry.exists_verdict_empty_iff.mpr hneeds)] at hgeneral
    refine ⟨made, ?_⟩
    rw [if_pos hneeds, andThen_of_error hgeneral, List.append_nil]
  · have hsilent : ∀ application ∈ (Registry.tuned limits severity).onDocument .general
        (Document.empty tree path), application.2 = .ok [] := by
      intro application happlication
      refine (Registry.verdict_empty happlication).resolve_right fun hunread => ?_
      exact hneeds (Registry.exists_verdict_empty_iff.mp ⟨application, happlication, hunread⟩)
    rw [forEach_reportVerdict_silent hsilent] at hgeneral
    -- there is one more round, but no standing rule is one on resources
    have hmade : ({ session.opened path with made } : Session).rules =
        Registry.tuned limits severity := hrules
    obtain ⟨made', hresource⟩ := playRound_tuned hmade (Document.empty tree path).path .resource
      (Document.empty tree path)
    rw [Registry.onDocument, Registry.active_resource_tuned, List.map_nil] at hresource
    refine ⟨made', ?_⟩
    rw [if_neg hneeds, andThen_of_ok hgeneral, forEach, andThen_of_ok hresource]
    exact congrArg (Outcome.mk _ · _ _) (List.append_nil _)

theorem lintPath_of_content {tree : FileTree} {path : Text} {content : Content}
    (h : tree.content path = .ok content) : lintPath tree path = lintFile tree path := by
  unfold FileTree.content at h
  unfold lintPath
  rcases hlookup : tree.lookup path with obstacle | ⟨name, content'⟩ | ⟨name, entries⟩
  · rw [hlookup] at h
    cases h
  · rfl
  · rw [hlookup] at h
    cases h

/-! ### Runs with an unreadable file -/

section Unreadable

variable {tree : FileTree} {file : Text} {content : Content} {malformed : Utf8.Malformed}
  {limits : Limits} {severity : Text → Severity}

theorem like_opened {session : Session} (hrules : session.rules = Registry.tuned limits severity)
    (path : Text) (made : List Text) : Like { session.opened path with made } session := by
  have hcoherent : session.rules.Coherent := by
    rw [hrules]
    exact Registry.coherent_tuned limits severity
  exact ⟨rfl, .inl hcoherent, rfl, rfl, rfl, rfl, rfl⟩

/-- A file that is not accepted makes no difference to what follows it. -/
theorem forEach_unaccepted {s t : Session} (hcontent : tree.content file = .ok content)
    (hst : Like s t) (haccepts : s.accepts file = false) (after : List Text) :
    Alike Like (forEach (lintPath tree) (file :: after) s) (forEach (lintPath tree) after t) := by
  have hfile : lintPath tree file s = done () s := by
    rw [lintPath_of_content hcontent, lintFile_eq, haccepts, if_neg Bool.false_ne_true]
  rw [forEach, andThen_of_ok hfile]
  exact relates_forEach (relates_lintPath tree) after s t hst

/-- An unreadable file whose text is needed ends the run. -/
theorem forEach_needed {s : Session} (hcontent : tree.content file = .ok content)
    (hbytes : Utf8.decode content.bytes = .error malformed)
    (hrules : s.rules = Registry.tuned limits severity) (haccepts : s.accepts file = true)
    (hneeds : Registry.NeedsText severity) (after : List Text) :
    ∃ after', forEach (lintPath tree) (file :: after) s =
      ⟨[], Document.complaint file (.malformed malformed), after', .error (.fault .unread)⟩ := by
  obtain ⟨made, hfile⟩ := examine_unreadable hcontent hbytes hrules
  rw [if_pos hneeds] at hfile
  refine ⟨{ s.opened file with made }, ?_⟩
  rw [forEach, andThen_of_error]
  rw [lintPath_of_content hcontent, lintFile_eq, if_pos haccepts, hfile]

/-- An unreadable file whose text is not needed adds a complaint. -/
theorem forEach_unneeded {s t : Session} (hcontent : tree.content file = .ok content)
    (hbytes : Utf8.decode content.bytes = .error malformed)
    (hrules : s.rules = Registry.tuned limits severity) (hst : Like s t)
    (haccepts : s.accepts file = true) (hneeds : ¬Registry.NeedsText severity)
    (after : List Text) :
    ∃ others, Alike Like others (forEach (lintPath tree) after t) ∧
      forEach (lintPath tree) (file :: after) s =
        ⟨others.out, Document.complaint file (.malformed malformed) ++ others.err,
          others.session, others.result⟩ := by
  obtain ⟨made, hfile⟩ := examine_unreadable hcontent hbytes hrules
  rw [if_neg hneeds] at hfile
  refine ⟨forEach (lintPath tree) after { s.opened file with made }, ?_, ?_⟩
  · exact relates_forEach (relates_lintPath tree) after _ t
      ((like_opened hrules file made).trans hst)
  · rw [forEach, andThen_of_ok]
    rotate_left
    · rw [lintPath_of_content hcontent, lintFile_eq, if_pos haccepts, hfile]
    · rfl

/-- **A run with a file that is not UTF-8 among its arguments**, for the standing rules with
any severities and limits. If the run does not get as far as the file, or the file is not
accepted, the file makes no difference. Otherwise it is complained about, and then it
depends on the rules on the text of a file: if one of them is applied, the run ends with a
fault, and nothing is reported about the arguments that follow; if all are ignored, the
rest of the run is what it would be without the file. -/
theorem run_unreadable (hcontent : tree.content file = .ok content)
    (hbytes : Utf8.decode content.bytes = .error malformed) (session : Session)
    (hrules : session.rules = Registry.tuned limits severity) (before after : List Text)
    (hwords : ∀ word ∈ before ++ file :: after, Reading.ofWord word = .ok .operand) :
    let whole := run tree (before ++ file :: after) session
    let others := run tree (before ++ after) session
    let start := run tree before session
    ((∃ stop, start.result = .error stop) ∨ session.accepts file = false →
      Alike Like whole others) ∧
    (∀ status, start.result = .ok status → session.accepts file = true →
      (Registry.NeedsText severity →
        whole.out = start.out ∧
        whole.err = start.err ++ Document.complaint file (.malformed malformed) ∧
        whole.result = .error (.fault .unread)) ∧
      (¬Registry.NeedsText severity →
        whole.out = others.out ∧
        (∃ rest, others.err = start.err ++ rest ∧
          whole.err = start.err ++ Document.complaint file (.malformed malformed) ++ rest) ∧
        whole.session.counts = others.session.counts ∧
        whole.result = others.result)) := by
  have hbefore : ∀ word ∈ before, Reading.ofWord word = .ok .operand :=
    fun word hword => hwords word (List.mem_append_left _ hword)
  have hothers : ∀ word ∈ before ++ after, Reading.ofWord word = .ok .operand := by
    intro word hword
    refine hwords word ?_
    rcases List.mem_append.mp hword with h | h
    · exact List.mem_append_left _ h
    · exact List.mem_append_right _ (List.mem_cons_of_mem _ h)
  rw [run_of_operands hwords, run_of_operands hothers, run_of_operands hbefore, forEach_append,
    forEach_append]
  -- up to the file, the three runs do the same
  obtain ⟨out, err, result, reached, hreached, hlike, hkept⟩ := forEach_begun tree session before
  have hwhole := hreached (before ++ file :: after)
  have hrest := hreached (before ++ after)
  have hst := hlike (before ++ file :: after) (before ++ after)
  obtain ⟨hkeptRules, haccepts'⟩ := hkept (before ++ file :: after)
  have hrules' : (reached (before ++ file :: after)).rules = _ :=
    (hkeptRules (hrules ▸ Registry.coherent_tuned limits severity)).trans hrules
  rw [← haccepts', hreached before]
  rcases result with stop | _
  -- the run ends before the file
  · rw [andThen_of_error hwhole, andThen_of_error hrest]
    refine ⟨fun _ => alike_concluded ⟨rfl, rfl, hst, rfl⟩, fun status hstatus => ?_⟩
    cases hstatus
  -- the run gets to the file, and the rest of it starts from sessions that are alike
  · rw [andThen_of_ok hwhole, andThen_of_ok hrest]
    refine ⟨?_, fun status _ haccepts => ⟨fun hneeds => ?_, fun hneeds => ?_⟩⟩
    · rintro (⟨stop, hstop⟩ | haccepts)
      · cases hstop
      · have h := forEach_unaccepted hcontent hst haccepts after
        exact alike_concluded
          ⟨congrArg (out ++ ·) h.out, congrArg (err ++ ·) h.err, h.session, h.result⟩
    · obtain ⟨after', hend⟩ := forEach_needed hcontent hbytes hrules' haccepts hneeds after
      rw [hend]
      exact ⟨List.append_nil out, rfl, rfl⟩
    · obtain ⟨later, ⟨hout, herr, hsession, hresult⟩, heq⟩ :=
        forEach_unneeded hcontent hbytes hrules' hst haccepts hneeds after
      rw [heq]
      refine ⟨?_, ⟨later.err, ?_, ?_⟩, hsession.counts, ?_⟩
      · exact congrArg (out ++ ·) hout
      · rw [concluded, concluded, herr]
      · rw [concluded, concluded, List.append_assoc]
      · rw [concluded, concluded, hresult, hsession.counts]

end Unreadable

/-- A folder with a file that is not UTF-8 and a file with an undocumented keyword. -/
def mixedTree : FileTree where
  entries := [.file "bad.robot" { bytes := [255] },
    .file "good.robot" { bytes := [42, 107, 101, 121, 119, 111, 114, 100, 10, 107] }]
  workingFolder := []

/-- The severities with all rules ignored but one. -/
def onlyKeywords (name : Text) : Severity :=
  if name = "RequireKeywordDocumentation" then .error else .ignore

/-- With the standing rules as they are, an unreadable file hides the error in the file
that follows it. If the rules on the text of a file are ignored, it does not. -/
theorem run_unreadable_first :
    (run mixedTree ["bad.robot", "good.robot"] {}).result = .error (.fault .unread) ∧
    (run mixedTree ["bad.robot", "good.robot"] {}).out = [] ∧
    (run mixedTree ["good.robot"] {}).result = .ok 1 ∧
    (run mixedTree ["bad.robot", "good.robot"]
      { rules := Registry.tuned {} onlyKeywords }).result = .ok 1 := by
  have hwords : ∀ word ∈ [("bad.robot" : Text), "good.robot"],
      Reading.ofWord word = .ok .operand := by decide
  have hcontent : mixedTree.content "bad.robot" = .ok { bytes := [255] } := by rfl
  have hbytes : Utf8.decode [255] = .error ⟨0, 255, 0, .invalidStart⟩ := by rfl
  have hignored := run_unreadable hcontent hbytes { rules := Registry.tuned {} onlyKeywords } rfl []
    ["good.robot"] hwords
  have hdefault := run_unreadable hcontent hbytes {} Registry.standing_eq_tuned [] ["good.robot"]
    hwords
  have hneeds := (hdefault.2 0 rfl rfl).1 (.inl (by decide))
  have hunneeded := (hignored.2 0 rfl rfl).2 (by decide)
  refine ⟨hneeds.2.2, hneeds.1, by decide +kernel, ?_⟩
  rw [List.nil_append] at hunneeded
  exact hunneeded.2.2.2.trans (by decide +kernel)

end Session

end SuiteLint
