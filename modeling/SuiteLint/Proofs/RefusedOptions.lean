import Mathlib.Tactic
import SuiteLint.Proofs.Plans

/-!
# Options that are refused

An option that gives a severity or configures a rule can be refused, for reasons that come up at
different places: its name is looked for among the rules, it is cut at its first colon and its
values at the others, the values are counted, and one of them is read as an integer. All of this
comes before anything is changed, if it does not count that all rules are made when one is looked
for. So an option that is refused leaves the session as it was, and what it is refused for can be
told from the option and the rules alone (`Registry.Refuses`).

An option that configures a rule changes the first one of exactly its name, and of that nothing
but the value (`Registry.Sets`). No other rule changes with it, since the standing rules have
different names.
-/

namespace SuiteLint

open SuiteLint.Action

/-! ### Names and values -/

namespace Text

variable {c : Char} {text : Text}

theorem cutAt_eq_none_iff : cutAt c text = none ↔ c ∉ text := by
  induction text with
  | nil => simp [cutAt]
  | cons d rest ih =>
    rw [cutAt]
    split
    next hd => simp [hd]
    next hd => rw [Option.map_eq_none_iff, ih, List.mem_cons, not_or, and_iff_right (Ne.symm hd)]

/-- A text is cut where the character occurs for the first time. -/
theorem cutAt_append_cons {before : Text} (h : c ∉ before) (rest : Text) :
    cutAt c (before ++ c :: rest) = some (before, rest) := by
  induction before with
  | nil => exact if_pos rfl
  | cons d before ih =>
    obtain ⟨hd, hbefore⟩ := not_or.mp (mt List.mem_cons.mpr h)
    rw [List.cons_append, cutAt, if_neg (Ne.symm hd), ih hbefore]
    rfl

end Text

/-- What comes of values that should be one integer. -/
theorem onlyInteger_pieces (rule value values : Text) :
    onlyInteger rule value (Text.pieces ':' values) =
      if ':' ∈ values then .error (.surplusValues rule 1 1 (values.count ':' + 1))
      else match Text.readInt? values with
        | some n => .ok n
        | none => .error (.notInteger values) := by
  split
  next h =>
    have hlength := Text.length_pieces ':' values
    have hcount : 0 < values.count ':' := List.count_pos_iff.mpr h
    rcases hpieces : Text.pieces ':' values with _ | ⟨first, _ | ⟨second, others⟩⟩
    · rw [hpieces, List.length_nil] at hlength
      omega
    · rw [hpieces, List.length_singleton] at hlength
      omega
    · rw [← hlength, hpieces]
      rfl
  next h =>
    rw [Text.pieces, List.splitOn_eq_singleton h]
    change (match Text.readInt? values with
      | some n => Except.ok n
      | none => Except.error (Fault.notInteger values)) = _
    rfl

/-- What is wrong with such values is the same for all rules. -/
theorem mapError_onlyInteger (name rule value : Text) (given : List Text) :
    (onlyInteger rule value given).mapError (Fault.ofRule name) = onlyInteger rule value given := by
  rcases given with _ | ⟨literal, _ | ⟨second, others⟩⟩
  · rfl
  · change (match Text.readInt? literal with
      | some n => Except.ok n
      | none => Except.error (Fault.notInteger literal)).mapError (Fault.ofRule name) = _
    change _ = match Text.readInt? literal with
      | some n => Except.ok n
      | none => Except.error (Fault.notInteger literal)
    cases Text.readInt? literal <;> rfl
  · rfl

/-! ### What is wrong with an option -/

namespace Registry

/-- The rules refuse an option, for some fault. -/
inductive Refuses (rules : Registry) : Use → Fault → Prop
  /-- A severity is given to a name that no rule has, letter case aside. -/
  | unknown {switch : Switch} {severity : Severity} {name : Text} :
      switch.severity? = some severity → ¬rules.Admits name →
      Refuses rules ⟨switch, name⟩ (.unknownRule name)
  /-- There is no colon after the name of the rule to configure. -/
  | noColon {text : Text} : ':' ∉ text → Refuses rules ⟨.configure, text⟩ .noColon
  /-- The rule to configure does not exist. -/
  | missing {name values : Text} : ':' ∉ name → (∀ rule ∈ rules, rule.name ≠ name) →
      Refuses rules ⟨.configure, name ++ ':' :: values⟩ (.unknownRule name)
  /-- The rule to configure has no values. -/
  | notConfigurable {rule : Rule} {values : Text} : ':' ∉ rule.name → rule ∈ rules →
      rule.check.settings = [] →
      Refuses rules ⟨.configure, rule.name ++ ':' :: values⟩ (.notConfigurable rule.name)
  /-- The rule to configure has one value, and more are given. -/
  | surplusValues {rule : Rule} {setting : Text × Setting} {values : Text} : ':' ∉ rule.name →
      rule ∈ rules → rule.check.settings = [setting] → ':' ∈ values →
      Refuses rules ⟨.configure, rule.name ++ ':' :: values⟩
        (.surplusValues rule.name 1 1 (values.count ':' + 1))
  /-- The value of the rule to configure is an integer, and the one given is none. -/
  | notInteger {rule : Rule} {setting : Text × Setting} {literal : Text} : ':' ∉ rule.name →
      rule ∈ rules → rule.check.settings = [setting] → ':' ∉ literal →
      Text.readInt? literal = none →
      Refuses rules ⟨.configure, rule.name ++ ':' :: literal⟩ (.notInteger literal)

/-- An option to configure a rule puts an integer in place of the only value of the first rule of
exactly the given name. What other rules there are, and all else about this one, stays. -/
inductive Sets (rules : Registry) : Text → Registry → Prop
  | mk {literal key : Text} {n old : Int} {earlier later : List Rule} {rule : Rule}
      {check : Check} : ':' ∉ rule.name → ':' ∉ literal → Text.readInt? literal = some n →
      rules.all = earlier ++ rule :: later → (∀ other ∈ earlier, other.name ≠ rule.name) →
      rule.check.settings = [(key, .number old)] → check.settings = [(key, .number n)] →
      check.name = rule.check.name → check.scope = rule.check.scope →
      Sets rules (rule.name ++ ':' :: literal) (earlier ++ { rule with check } :: later)

end Registry

/-- A standing check cannot be configured, or its only value is an integer. -/
theorem Check.configure_of_mem_standing {limits : Limits} {check : Check}
    (h : check ∈ Check.standing limits) :
    (check.settings = [] ∧ ∀ given, check.configure given = .error (.notConfigurable check.name)) ∨
    ∃ key old, ∃ make : Int → Check, check.settings = [(key, .number old)] ∧
      (∀ given, check.configure given = (onlyInteger check.name key given).map make) ∧
      ∀ n, (make n).settings = [(key, .number n)] ∧ (make n).name = check.name ∧
        (make n).scope = check.scope := by
  cases check with
  | suite check =>
    cases check with
    | testCount => exact .inr ⟨_, _, _, rfl, fun _ => rfl, fun _ => ⟨rfl, rfl, rfl⟩⟩
    | echoPair => simp [Check.standing] at h
    | _ => exact .inl ⟨rfl, fun _ => rfl⟩
  | resource => simp [Check.standing] at h
  | test check =>
    cases check with
    | fewSteps | manySteps => exact .inr ⟨_, _, _, rfl, fun _ => rfl, fun _ => ⟨rfl, rfl, rfl⟩⟩
    | _ => exact .inl ⟨rfl, fun _ => rfl⟩
  | keyword check =>
    cases check with
    | fewSteps => exact .inr ⟨_, _, _, rfl, fun _ => rfl, fun _ => ⟨rfl, rfl, rfl⟩⟩
    | _ => exact .inl ⟨rfl, fun _ => rfl⟩
  | general check =>
    cases check with
    | lineLength | blankEnd | fileLength =>
      exact .inr ⟨_, _, _, rfl, fun _ => rfl, fun _ => ⟨rfl, rfl, rfl⟩⟩
    | _ => exact .inl ⟨rfl, fun _ => rfl⟩

namespace Registry

/-! ### Configuring one of the standing rules -/

/-- What an option to configure a rule makes of the rules. -/
def configuredBy (rules : Registry) (text : Text) : Except Fault Registry :=
  match Text.cutAt ':' text with
  | none => .error .noColon
  | some (name, values) => rules.configure name values

variable {limits : Limits} {severity : Text → Severity}

theorem all_tuned : (tuned limits severity).all = tuned limits severity := rfl

theorem nodup_names_tuned : ((tuned limits severity).map Rule.name).Nodup := by
  have hnames : (tuned limits severity).map Rule.name = standing.map Rule.name := rfl
  rw [hnames]
  decide +kernel

theorem name_ne_of_nodup {earlier later : List Rule} {rule : Rule}
    (h : ((earlier ++ rule :: later).map Rule.name).Nodup) :
    ∀ other ∈ earlier ++ later, other.name ≠ rule.name := by
  rw [List.map_append, List.map_cons, List.nodup_middle, List.nodup_cons, ← List.map_append] at h
  intro other hother hname
  exact h.1 (List.mem_map.mpr ⟨other, hother, hname⟩)

/-- Only one rule changes if no other one has its name. -/
theorem map_setCheck {earlier later : List Rule} {rule : Rule}
    (h : ∀ other ∈ earlier ++ later, other.name ≠ rule.name) (check : Check) :
    (earlier ++ rule :: later).map
        (fun other => if other.name = rule.name then { other with check } else other) =
      earlier ++ { rule with check } :: later := by
  have hothers (others : List Rule) (hothers : ∀ other ∈ others, other.name ≠ rule.name) :
      others.map (fun other => if other.name = rule.name then { other with check } else other) =
        others :=
    (List.map_congr_left fun other hother => if_neg (hothers other hother)).trans
      (List.map_id' others)
  rw [List.map_append, List.map_cons, if_pos rfl,
    hothers earlier fun other hother => h other (List.mem_append_left later hother),
    hothers later fun other hother => h other (List.mem_append_right earlier hother)]

/-- A standing rule is found by its name. -/
theorem configure_of_mem {rule : Rule} (hmem : rule ∈ tuned limits severity)
    (hcolon : ':' ∉ rule.name) (values : Text) :
    ∃ earlier later, tuned limits severity = earlier ++ rule :: later ∧
      (∀ other ∈ earlier, other.name ≠ rule.name) ∧
      (tuned limits severity).configuredBy (rule.name ++ ':' :: values) =
        ((rule.check.configure (Text.pieces ':' values)).mapError (.ofRule rule.name)).map
          fun check => earlier ++ { rule with check } :: later := by
  obtain ⟨earlier, later, hsplit⟩ := List.append_of_mem hmem
  have hnodup : ((tuned limits severity).map Rule.name).Nodup := nodup_names_tuned
  rw [hsplit] at hnodup
  have hothers := name_ne_of_nodup hnodup
  have hearlier : ∀ other ∈ earlier, other.name ≠ rule.name := fun other hother =>
    hothers other (List.mem_append_left later hother)
  have hfind : (tuned limits severity).all.find? (fun other => rule.name = other.name) =
      some rule := by
    rw [all_tuned, List.find?_eq_some_iff_append]
    refine ⟨decide_eq_true rfl, earlier, later, hsplit, fun other hother => ?_⟩
    rw [decide_eq_false (hearlier other hother).symm]
    rfl
  refine ⟨earlier, later, hsplit, hearlier, ?_⟩
  rw [configuredBy, Text.cutAt_append_cons hcolon]
  simp only [configure, hfind]
  rcases rule.check.configure (Text.pieces ':' values) with fault | check
  · rfl
  · change Except.ok ((tuned limits severity).map _) = Except.ok _
    rw [hsplit, map_setCheck hothers]

theorem configure_of_unknown {rules : Registry} {name : Text} (hcolon : ':' ∉ name)
    (h : ∀ rule ∈ rules, rule.name ≠ name) (values : Text) :
    rules.configuredBy (name ++ ':' :: values) = .error (.unknownRule name) := by
  have hfind : rules.all.find? (fun rule => name = rule.name) = none := by
    rw [List.find?_eq_none]
    intro rule hrule hname
    exact h rule (mem_all_iff.mp hrule) (of_decide_eq_true hname).symm
  rw [configuredBy, Text.cutAt_append_cons hcolon]
  simp only [configure, hfind]

theorem configure_of_noColon {rules : Registry} {text : Text} (h : ':' ∉ text) :
    rules.configuredBy text = .error .noColon := by
  rw [configuredBy, Text.cutAt_eq_none_iff.mpr h]

theorem mem_standing_of_mem_tuned {rule : Rule} (h : rule ∈ tuned limits severity) :
    rule.check ∈ Check.standing limits ∧ rule.check.name = rule.name := by
  obtain ⟨check, hcheck, rfl⟩ := List.mem_map.mp h
  exact ⟨hcheck, rfl⟩

/-- A rule without values is not to be configured. -/
theorem configure_of_fixed {rule : Rule} (hmem : rule ∈ tuned limits severity)
    (hcolon : ':' ∉ rule.name) (hsettings : rule.check.settings = []) (values : Text) :
    (tuned limits severity).configuredBy (rule.name ++ ':' :: values) =
      .error (.notConfigurable rule.name) := by
  obtain ⟨earlier, later, -, -, hconfigure⟩ := configure_of_mem hmem hcolon values
  rcases Check.configure_of_mem_standing (mem_standing_of_mem_tuned hmem).1 with
    ⟨-, hrefused⟩ | ⟨key, old, make, hvalue, -⟩
  · rw [hconfigure, hrefused]
    rfl
  · rw [hvalue] at hsettings
    cases hsettings

/-- A rule with one value is given the integer in the option, if it is one. -/
theorem configure_of_single {rule : Rule} (hmem : rule ∈ tuned limits severity)
    (hcolon : ':' ∉ rule.name) {setting : Text × Setting}
    (hsettings : rule.check.settings = [setting]) (values : Text) :
    ∃ give : Int → Registry,
      (tuned limits severity).configuredBy (rule.name ++ ':' :: values) =
        (onlyInteger rule.name setting.1 (Text.pieces ':' values)).map give ∧
      ∀ n, ':' ∉ values → Text.readInt? values = some n →
        (tuned limits severity).Sets (rule.name ++ ':' :: values) (give n) := by
  obtain ⟨earlier, later, hsplit, hearlier, hconfigure⟩ := configure_of_mem hmem hcolon values
  rcases Check.configure_of_mem_standing (mem_standing_of_mem_tuned hmem).1 with
    ⟨hnone, -⟩ | ⟨key, old, make, hvalue, hmake, hkept⟩
  · rw [hnone] at hsettings
    cases hsettings
  · obtain rfl : (key, .number old) = setting := List.singleton_inj.mp (hvalue.symm.trans hsettings)
    refine ⟨fun n => earlier ++ { rule with check := make n } :: later, ?_,
      fun n hvalues hread => ?_⟩
    · have hfaults := mapError_onlyInteger rule.name rule.name key (Text.pieces ':' values)
      rw [hconfigure, hmake, (mem_standing_of_mem_tuned hmem).2]
      rcases hinteger : onlyInteger rule.name key (Text.pieces ':' values) with fault | n
      · rw [hinteger] at hfaults
        exact congrArg Except.error (Except.error.inj hfaults)
      · rfl
    · obtain ⟨hmade, hname, hscope⟩ := hkept n
      exact .mk hcolon hvalues hread (all_tuned.trans hsplit) hearlier hvalue hmade hname hscope

/-! ### Refused or not -/

/-- What an option makes of the rules, if it is one that is about them. -/
def revised (rules : Registry) (use : Use) : Except Fault Registry :=
  match use.switch with
  | .configure => rules.configuredBy use.value
  | switch =>
    match switch.severity? with
    | some severity => rules.setSeverity use.value severity
    | none => .ok rules

theorem revised_configure (rules : Registry) (text : Text) :
    rules.revised ⟨.configure, text⟩ = rules.configuredBy text := rfl

theorem revised_severity {switch : Switch} {given : Severity}
    (h : switch.severity? = some given) (rules : Registry) (name : Text) :
    rules.revised ⟨switch, name⟩ = rules.setSeverity name given := by
  cases switch with
  | error | warning | ignore =>
    cases h
    rfl
  | _ => cases h

/-- **An option that the rules refuse is refused for the fault they have with it.** -/
theorem revised_of_refuses {use : Use} {fault : Fault}
    (h : (tuned limits severity).Refuses use fault) :
    (tuned limits severity).revised use = .error fault := by
  cases h with
  | unknown hswitch hname => rw [revised_severity hswitch, setSeverity_of_not_admits hname]
  | noColon htext => exact configure_of_noColon htext
  | missing hcolon hname => exact configure_of_unknown hcolon hname _
  | notConfigurable hcolon hmem hsettings => exact configure_of_fixed hmem hcolon hsettings _
  | surplusValues hcolon hmem hsettings hvalues =>
    obtain ⟨give, hconfigure, -⟩ := configure_of_single hmem hcolon hsettings _
    rw [revised_configure, hconfigure, onlyInteger_pieces, if_pos hvalues]
    rfl
  | notInteger hcolon hmem hsettings hliteral hread =>
    obtain ⟨give, hconfigure, -⟩ := configure_of_single hmem hcolon hsettings _
    rw [revised_configure, hconfigure, onlyInteger_pieces, if_neg hliteral, hread]
    rfl

/-- **An option to configure a rule is refused, or sets the value of a rule.** -/
theorem refuses_or_sets (limits : Limits) (severity : Text → Severity) (text : Text) :
    (∃ fault, (tuned limits severity).Refuses ⟨.configure, text⟩ fault) ∨
    ∃ rules, (tuned limits severity).configuredBy text = .ok rules ∧
      (tuned limits severity).Sets text rules := by
  -- the reasons are taken in the order in which they come up
  by_cases htext : ':' ∈ text
  swap
  · exact .inl ⟨_, .noColon htext⟩
  obtain ⟨name, values, rfl, hcolon⟩ := List.eq_append_cons_of_mem htext
  by_cases hname : ∃ rule ∈ tuned limits severity, rule.name = name
  swap
  · exact .inl ⟨_, .missing hcolon fun rule hrule hrulename => hname ⟨rule, hrule, hrulename⟩⟩
  obtain ⟨rule, hmem, rfl⟩ := hname
  rcases Check.configure_of_mem_standing (mem_standing_of_mem_tuned hmem).1 with
    ⟨hnone, -⟩ | ⟨key, old, make, hvalue, -⟩
  · exact .inl ⟨_, .notConfigurable hcolon hmem hnone⟩
  by_cases hvalues : ':' ∈ values
  · exact .inl ⟨_, .surplusValues hcolon hmem hvalue hvalues⟩
  rcases hread : Text.readInt? values with _ | n
  · exact .inl ⟨_, .notInteger hcolon hmem hvalue hvalues hread⟩
  · obtain ⟨give, hconfigure, hsets⟩ := configure_of_single hmem hcolon hvalue values
    refine .inr ⟨give n, ?_, hsets n hvalues hread⟩
    rw [hconfigure, onlyInteger_pieces, if_neg hvalues, hread]
    rfl

theorem sets_of_configure {text : Text} {rules : Registry}
    (h : (tuned limits severity).configuredBy text = .ok rules) :
    (tuned limits severity).Sets text rules := by
  rcases refuses_or_sets limits severity text with ⟨fault, hrefuses⟩ | ⟨others, hok, hsets⟩
  · have herror := revised_of_refuses hrefuses
    rw [revised_configure, h] at herror
    cases herror
  · rw [h] at hok
    cases hok
    exact hsets

/-- **The rules refuse exactly the options that fail.** -/
theorem revised_eq_error_iff {use : Use}
    (huse : use.switch = .configure ∨ use.switch.severity?.isSome = true) {fault : Fault} :
    (tuned limits severity).revised use = .error fault ↔
      (tuned limits severity).Refuses use fault := by
  refine ⟨fun herror => ?_, revised_of_refuses⟩
  obtain ⟨switch, text⟩ := use
  rcases huse with rfl | hswitch
  · rcases refuses_or_sets limits severity text with
      ⟨other, hrefuses⟩ | ⟨rules, hok, -⟩
    · rw [revised_of_refuses hrefuses] at herror
      cases herror
      exact hrefuses
    · rw [revised_configure, hok] at herror
      cases herror
  · obtain ⟨given, hgiven⟩ := Option.isSome_iff_exists.mp hswitch
    rw [revised_severity hgiven] at herror
    by_cases hadmits : (tuned limits severity).Admits text
    · rw [setSeverity_of_admits hadmits] at herror
      cases herror
    · rw [setSeverity_of_not_admits hadmits] at herror
      cases herror
      exact .unknown hgiven hadmits

end Registry

namespace Session

/-- Such an option asks for all rules and puts others in place of them, or gives up, which it may
do before it asks. -/
theorem perform_eq_revised {use : Use}
    (huse : use.switch = .configure ∨ use.switch.severity?.isSome = true) (tree : FileTree)
    (nested : Settings → List Text → Action Settings) (settings : Settings) (session : Session) :
    ∃ reached, (reached = session ∨ reached = session.askedAll) ∧
      perform tree nested settings use session =
        match session.askedAll.rules.revised use with
        | .ok rules => ⟨[], [], { session.askedAll with rules }, .ok settings⟩
        | .error fault => ⟨[], [], reached, .error (.fault fault)⟩ := by
  obtain ⟨switch, text⟩ := use
  have hrevise (revision : Registry → Except Fault Registry) :
      andThen (revise revision) (fun _ => done settings) session =
        match revision session.askedAll.rules with
        | .ok rules => ⟨[], [], { session.askedAll with rules }, .ok settings⟩
        | .error fault => ⟨[], [], session.askedAll, .error (.fault fault)⟩ := by
    rcases hrevision : revision session.askedAll.rules with fault | rules
    · have hstep : revise revision session =
          ⟨[], [], session.askedAll, .error (.fault fault)⟩ := by rw [revise, hrevision]
      exact andThen_of_error hstep
    · have hstep : revise revision session =
          ⟨[], [], { session.askedAll with rules }, .ok ()⟩ := by rw [revise, hrevision]
      exact andThen_of_silent hstep rfl
  rcases huse with rfl | hswitch
  · have hperform : perform tree nested settings ⟨.configure, text⟩ session =
        andThen (configure text) (fun _ => done settings) session := rfl
    rw [hperform, configure_eq_revise, Registry.revised_configure, Registry.configuredBy]
    rcases Text.cutAt ':' text with _ | ⟨name, values⟩
    · exact ⟨session, .inl rfl, rfl⟩
    · exact ⟨session.askedAll, .inr rfl, hrevise _⟩
  · obtain ⟨given, hgiven⟩ := Option.isSome_iff_exists.mp hswitch
    refine ⟨session.askedAll, .inr rfl, ?_⟩
    rw [perform_eq_setSeverity hgiven, setSeverity_eq_revise, hrevise,
      Registry.revised_severity hgiven]

/-- **An option that is refused leaves the session as it was**, except that by then all rules may
have been made. Options that give a severity or configure a rule fail exactly where the rules
refuse them, for the fault that the rules have with them, and nothing has been changed or printed
then. An option that configures a rule and does not fail sets the value of the first rule of its
name, and changes nothing else. -/
theorem perform_refused_or_sets {limits : Limits} {severity : Text → Severity} {session : Session}
    (hrules : session.rules = Registry.tuned limits severity) {use : Use}
    (huse : use.switch = .configure ∨ use.switch.severity?.isSome = true) (tree : FileTree)
    (nested : Settings → List Text → Action Settings) (settings : Settings) :
    let outcome := perform tree nested settings use session
    (∀ stop, outcome.result = .error stop ↔
      ∃ fault, stop = .fault fault ∧ session.rules.Refuses use fault) ∧
    (∀ stop, outcome.result = .error stop →
      ∃ made, (made = session.made ∨ made = session.askedAll.made) ∧
        outcome = ⟨[], [], { session with made }, .error stop⟩) ∧
    (use.switch = .configure → ∀ reached, outcome.result = .ok reached →
      ∃ rules, session.rules.Sets use.value rules ∧
        outcome = ⟨[], [], { session with rules, made := session.askedAll.made },
          .ok settings⟩) := by
  intro outcome
  have hasked : session.askedAll = { session with made := session.askedAll.made } :=
    askedAll_of_coherent (hrules ▸ Registry.coherent_tuned limits severity)
  have hsame : session.askedAll.rules = session.rules := by rw [hasked]
  obtain ⟨reached, hreached, houtcome⟩ :
      ∃ reached, (reached = session ∨ reached = session.askedAll) ∧ outcome = _ :=
    perform_eq_revised huse tree nested settings session
  rw [hsame] at houtcome
  have hrefuses {fault : Fault} : session.rules.revised use = .error fault ↔
      session.rules.Refuses use fault := by
    rw [hrules]
    exact Registry.revised_eq_error_iff huse
  rcases hrevised : session.rules.revised use with fault | rules
  · rw [hrevised] at houtcome hrefuses
    rw [houtcome]
    refine ⟨fun stop => ⟨?_, ?_⟩, ?_, ?_⟩
    · rintro ⟨⟩
      exact ⟨fault, rfl, hrefuses.mp rfl⟩
    · rintro ⟨other, rfl, hother⟩
      cases hrefuses.mpr hother
      rfl
    · rintro stop ⟨⟩
      rcases hreached with rfl | rfl
      · exact ⟨_, .inl rfl, rfl⟩
      · refine ⟨_, .inr rfl, ?_⟩
        rw [← hasked]
    · rintro - reached ⟨⟩
  · rw [hrevised] at houtcome hrefuses
    rw [houtcome]
    refine ⟨fun stop => ⟨?_, ?_⟩, ?_, ?_⟩
    · rintro ⟨⟩
    · rintro ⟨other, -, hother⟩
      cases hrefuses.mpr hother
    · rintro stop ⟨⟩
    · intro hswitch reached _
      obtain ⟨switch, text⟩ := use
      obtain rfl : switch = .configure := hswitch
      refine ⟨rules, ?_, ?_⟩
      · rw [hrules] at hrevised ⊢
        exact Registry.sets_of_configure hrevised
      · rw [hasked]

/-- A rule that is given one value, and the same rule given two. -/
theorem perform_refused_or_sets_twice :
    let perform text session := perform { entries := [], workingFolder := [] }
      (fun settings _ => done settings) {} ⟨.configure, text⟩ session
    let session : Session := {}
    session.rules.Sets "LineTooLong:80" (perform "LineTooLong:80" session).session.rules ∧
      (perform "LineTooLong:80:90" session).result =
        .error (.fault (.surplusValues "LineTooLong" 1 1 2)) ∧
      (perform "LineTooLong:80:90" session).session.rules = session.rules := by
  intro perform session
  have hrules : session.rules = Registry.tuned {} Registry.standingSeverity :=
    Registry.standing_eq_tuned
  have huse (text : Text) : (⟨.configure, text⟩ : Use).switch = .configure ∨
      (⟨.configure, text⟩ : Use).switch.severity?.isSome = true := .inl rfl
  have hsettled (text : Text) := perform_refused_or_sets hrules (huse text)
    { entries := [], workingFolder := [] } (fun settings _ => done settings) {}
  have hrefuses : session.rules.Refuses ⟨.configure, "LineTooLong:80:90"⟩
      (.surplusValues "LineTooLong" 1 1 2) := by
    have hmem : .ofCheck (.general (.lineLength 100)) .warning ∈ session.rules :=
      List.mem_of_getElem? (i := 15) rfl
    have hvalues : ':' ∈ ("80:90" : Text) := by decide
    exact .surplusValues (by decide) hmem rfl hvalues
  have hresult := ((hsettled "LineTooLong:80:90").1 _).mpr ⟨_, rfl, hrefuses⟩
  refine ⟨?_, hresult, ?_⟩
  · have hok : (perform "LineTooLong:80" session).result = .ok {} := by decide +kernel
    obtain ⟨rules, hsets, houtcome⟩ := (hsettled "LineTooLong:80").2.2 rfl _ hok
    rw [show perform "LineTooLong:80" session = _ from houtcome]
    exact hsets
  · obtain ⟨made, -, houtcome⟩ := (hsettled "LineTooLong:80:90").2.1 _ hresult
    rw [show perform "LineTooLong:80:90" session = _ from houtcome]

end Session

end SuiteLint
