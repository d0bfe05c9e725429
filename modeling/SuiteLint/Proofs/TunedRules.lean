import Mathlib.Tactic
import SuiteLint.Proofs.AppliedRules

/-!
# The standing rules with other values

Options change the severities of rules and the limits that some checks are configured
with. They change nothing else (`Registry.setSeverity_tuned`, `Registry.configure_tuned`):
rules that began as the standing ones are the same checks in the same order ever after,
each with the severity that its name was given (`Registry.tuned`). What is said of all
severities and limits is said of all sessions that load no rule pack.
-/

namespace SuiteLint

/-- The values that standing checks are configured with, at first those of the standing
rules. -/
structure Limits where
  /-- The most test cases of a suite. -/
  tests : Int := 10
  /-- The fewest steps of a test case. -/
  fewestTestSteps : Int := 2
  /-- The most steps of a test case. -/
  mostTestSteps : Int := 10
  /-- The fewest steps of a keyword. -/
  fewestKeywordSteps : Int := 2
  /-- The most characters of a line. -/
  lineLength : Int := 100
  /-- The most blank lines at the end of a file. -/
  blankEnd : Int := 2
  /-- The most lines of a file. -/
  fileLength : Int := 300

/-- The standing checks, in their order. -/
def Check.standing (limits : Limits) : List Check := [
  .suite .periodInName,
  .suite .invalidTable,
  .suite .duplicateKeywords,
  .suite .duplicateTests,
  .suite .documentation,
  .suite (.testCount limits.tests),
  .test .periodInName,
  .test .tagWithSpaces,
  .test .documentation,
  .test (.fewSteps limits.fewestTestSteps),
  .test (.manySteps limits.mostTestSteps),
  .test .forLoop,
  .test .condition,
  .keyword .documentation,
  .keyword (.fewSteps limits.fewestKeywordSteps),
  .general (.lineLength limits.lineLength),
  .general (.blankEnd limits.blankEnd),
  .general (.fileLength limits.fileLength),
  .general .variableCase]

namespace Registry

/-- The standing checks as rules, with severities by name. -/
def tuned (limits : Limits) (severity : Text → Severity) : Registry :=
  (Check.standing limits).map fun check => .ofCheck check (severity check.name)

/-- The severity that the standing rule of a name has. -/
def standingSeverity (name : Text) : Severity :=
  if [("DuplicateKeywordNames" : Text), "DuplicateTestNames", "TagWithSpaces",
    "RequireTestDocumentation", "RequireKeywordDocumentation"].contains name then .error
  else .warning

theorem standing_eq_tuned : standing = tuned {} standingSeverity := by
  have hseverities : (Check.standing {}).map (fun check => standingSeverity check.name) =
      standing.map Rule.severity := by decide +kernel
  have hstanding : standing = List.zipWith Rule.ofCheck (Check.standing {})
      (standing.map Rule.severity) := rfl
  rw [hstanding, ← hseverities, List.zipWith_map_right, List.zipWith_self]
  rfl

/-- The standing rules have different names, letter case aside. -/
theorem nodup_folded_standing (limits : Limits) :
    ((Check.standing limits).map fun check => Text.lower check.name).Nodup := by
  have hnames : (Check.standing limits).map Check.name = (Check.standing {}).map Check.name := rfl
  have hnodup : (((Check.standing {}).map Check.name).map Text.lower).Nodup := by decide +kernel
  rw [← hnames, List.map_map] at hnodup
  exact hnodup

theorem nodup_folded_tuned (limits : Limits) (severity : Text → Severity) :
    ((tuned limits severity).map Rule.folded).Nodup := by
  rw [tuned, List.map_map]
  exact nodup_folded_standing limits

/-- There is nothing to choose between the standing rules. -/
theorem coherent_tuned (limits : Limits) (severity : Text → Severity) :
    (tuned limits severity).Coherent := coherent_of_nodup (nodup_folded_tuned limits severity)

theorem coherent_standing : standing.Coherent := standing_eq_tuned ▸ coherent_tuned _ _

theorem concerns_iff {name : Text} {rule : Rule} :
    concerns name rule = true ↔ name = rule.name ∨ name = "all" := by
  unfold concerns
  rw [Bool.or_eq_true, decide_eq_true_iff, decide_eq_true_iff]

/-- Setting severities leaves the checks as they are. -/
theorem setSeverity_tuned {limits : Limits} {severity : Text → Severity} {name : Text}
    {given : Severity} {rules : Registry}
    (h : (tuned limits severity).setSeverity name given = .ok rules) :
    ∃ severity', rules = tuned limits severity' := by
  unfold setSeverity at h
  split at h
  · cases h
  · obtain rfl := Except.ok.inj h
    refine ⟨fun other => if name = other ∨ name = "all" then given else severity other, ?_⟩
    unfold tuned
    rw [List.map_map]
    refine List.map_congr_left fun check _ => ?_
    rw [Function.comp_apply]
    have hconcerns : concerns name (.ofCheck check (severity check.name)) = true ↔
        name = check.name ∨ name = "all" := concerns_iff
    by_cases hname : name = check.name ∨ name = "all"
    · simp only [if_pos (hconcerns.mpr hname), if_pos hname]
      rfl
    · simp only [if_neg (mt hconcerns.mp hname), if_neg hname]

theorem exists_of_map_eq_ok {α β : Type} {f : α → β} {result : Except Fault α} {b : β}
    (h : result.map f = .ok b) : ∃ a, f a = b := by
  cases result with
  | error fault => cases h
  | ok a => exact ⟨a, Except.ok.inj h⟩

/-- Configuring one of the standing checks gives the standing checks with other limits. -/
theorem configure_standing {limits : Limits} {check check' : Check} {given : List Text}
    (hmem : check ∈ Check.standing limits) (h : check.configure given = .ok check') :
    (∀ severity, { Rule.ofCheck check severity with check := check' } = .ofCheck check' severity) ∧
      ∃ limits', (Check.standing limits).map
        (fun other => if other.name = check.name then check' else other) =
          Check.standing limits' := by
  unfold Check.configure at h
  split at h
  · obtain ⟨n, rfl⟩ := exists_of_map_eq_ok h
    exact ⟨fun _ => rfl, { limits with tests := n }, rfl⟩
  · simp [Check.standing] at hmem
  · simp [Check.standing] at hmem
  · obtain ⟨n, rfl⟩ := exists_of_map_eq_ok h
    exact ⟨fun _ => rfl, { limits with fewestTestSteps := n }, rfl⟩
  · obtain ⟨n, rfl⟩ := exists_of_map_eq_ok h
    exact ⟨fun _ => rfl, { limits with mostTestSteps := n }, rfl⟩
  · obtain ⟨n, rfl⟩ := exists_of_map_eq_ok h
    exact ⟨fun _ => rfl, { limits with fewestKeywordSteps := n }, rfl⟩
  · obtain ⟨n, rfl⟩ := exists_of_map_eq_ok h
    exact ⟨fun _ => rfl, { limits with lineLength := n }, rfl⟩
  · obtain ⟨n, rfl⟩ := exists_of_map_eq_ok h
    exact ⟨fun _ => rfl, { limits with blankEnd := n }, rfl⟩
  · obtain ⟨n, rfl⟩ := exists_of_map_eq_ok h
    exact ⟨fun _ => rfl, { limits with fileLength := n }, rfl⟩
  · cases h

/-- Configuring a rule changes nothing but a limit. -/
theorem configure_tuned {limits : Limits} {severity : Text → Severity} {name values : Text}
    {rules : Registry} (h : (tuned limits severity).configure name values = .ok rules) :
    ∃ limits', rules = tuned limits' severity := by
  unfold configure at h
  split at h
  · cases h
  next rule hfind =>
    have hrule : rule ∈ tuned limits severity := mem_all_iff.mp (List.mem_of_find?_eq_some hfind)
    obtain ⟨check, hcheck, rfl⟩ := List.mem_map.mp hrule
    have hname := List.find?_some hfind
    obtain rfl : name = check.name := of_decide_eq_true hname
    change ((check.configure (Text.pieces ':' values)).mapError (Fault.ofRule check.name) >>= _) =
      _ at h
    rcases hconfigure : check.configure (Text.pieces ':' values) with fault | check'
    · rw [hconfigure] at h
      cases h
    · rw [hconfigure] at h
      obtain ⟨hrest, limits', hlimits⟩ := configure_standing hcheck hconfigure
      refine ⟨limits', ?_⟩
      obtain rfl := Except.ok.inj h
      unfold tuned
      rw [← hlimits, List.map_map, List.map_map]
      refine List.map_congr_left fun other hother => ?_
      have hname' : check'.name = check.name := congrArg Rule.name (hrest .ignore).symm
      by_cases hsame : other.name = check.name
      · -- there is only one standing check of this name
        obtain rfl : other = check :=
          List.inj_on_of_nodup_map (nodup_folded_standing limits) hother hcheck
            (congrArg Text.lower hsame)
        have hrule : (Rule.ofCheck other (severity other.name)).name = other.name := rfl
        simp only [Function.comp_apply, hrule, if_true, hname']
        exact hrest _
      · have hrule : (Rule.ofCheck other (severity other.name)).name ≠ check.name := hsame
        simp only [Function.comp_apply, if_neg hrule, if_neg hsame]

/-! ### The rules that are applied -/

theorem mem_active_tuned {limits : Limits} {severity : Text → Severity} {scope : Scope}
    {rule : Rule} :
    rule ∈ (tuned limits severity).active scope ↔
      ∃ check ∈ Check.standing limits, check.scope = scope ∧ severity check.name ≠ .ignore ∧
        rule = .ofCheck check (severity check.name) := by
  unfold active ofScope tuned
  rw [List.mem_filter, List.mem_filter, List.mem_map]
  constructor
  · rintro ⟨⟨⟨check, hcheck, rfl⟩, hscope⟩, hactive⟩
    exact ⟨check, hcheck, of_decide_eq_true hscope, of_decide_eq_true hactive, rfl⟩
  · rintro ⟨check, hcheck, hscope, hactive, rfl⟩
    exact ⟨⟨⟨check, hcheck, rfl⟩, decide_eq_true hscope⟩, decide_eq_true hactive⟩

/-- No standing rule is one on resources. -/
theorem active_resource_tuned (limits : Limits) (severity : Text → Severity) :
    (tuned limits severity).active .resource = [] := by
  rfl

end Registry

end SuiteLint
