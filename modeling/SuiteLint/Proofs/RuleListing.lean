import Mathlib.Tactic
import SuiteLint.Proofs.Plans

/-!
# How often a rule is listed

Rules of the same name, letter case aside, are one rule, as soon as they have been asked for.
This holds whatever is done in a session: a rule that is loaded again is not made anew, and what
changes a rule changes it wherever it is listed. But to load it again is to list it again, and a
rule is applied to whatever it looks at as often as it is listed.

Which rule it is that is listed depends on what was asked for and when. Where rules are listed
does not: the rules of a session are told, up to this choice and what was done to them since, by
the rules that have been loaded into it. Each name is listed in each scope exactly as often as a
rule of this name was loaded for this scope, be it by a step of its own or by an option of a run,
and the standing rules count as loaded once (`Session.Lists`). In particular, no rule is listed
twice as long as no rule is loaded twice, and it is otherwise (`Session.listed_after`).

What a run loads can be told beforehand from its arguments and the session that it starts
from (`Session.loadedByArguments`). It depends on the session because arguments can come from
standard input, and because an option that is refused ends the run before the next one.
-/

namespace SuiteLint

open SuiteLint.Action

/-! ### Lists of rules -/

/-- Where a rule is listed: its scope, and its name without regard to letter case. -/
def Rule.place (rule : Rule) : Scope × Text := (rule.scope, rule.folded)

namespace Registry

variable {rules : Registry} {made : List Text}

/-- Rules of the same name are the same but for their scope, if they were made. -/
def Agree (rules : Registry) (made : List Text) : Prop :=
  ∀ a ∈ rules, ∀ b ∈ rules, a.folded = b.folded → a.folded ∈ made → a.under b.scope = b

theorem map_place_map {f : Rule → Rule} (hname : ∀ rule, (f rule).folded = rule.folded)
    (hscope : ∀ rule, (f rule).scope = rule.scope) (rules : Registry) :
    (rules.map f).map Rule.place = rules.map Rule.place := by
  rw [List.map_map]
  refine List.map_congr_left fun rule _ => ?_
  simp only [Function.comp_apply, Rule.place, hname, hscope]

/-- Asking for the rules of a scope keeps them in their places. -/
theorem map_place_settle (made : List Text) (rules : Registry) (scope : Scope) :
    (rules.settle made scope).map Rule.place = rules.map Rule.place :=
  map_place_map (folded_chosen made rules scope) (scope_chosen made rules scope) rules

/-- Where a rule of a name is made, the same one is chosen in all places of this name. -/
theorem chosen_under_scope {a b : Rule} {scope : Scope} (hsame : a.folded = b.folded)
    (hmade : a.folded ∉ made) (hscope : ∃ rule ∈ rules, rule.scope = scope ∧
      rule.folded = a.folded) :
    (chosen made rules scope a).under b.scope = chosen made rules scope b := by
  obtain ⟨rule, hrule, hscope, hfolded⟩ := hscope
  have hfound : ((rules.ofScope scope).find? (·.folded == a.folded)).isSome = true :=
    List.find?_isSome.mpr
      ⟨rule, List.mem_filter.mpr ⟨hrule, decide_eq_true hscope⟩, beq_iff_eq.mpr hfolded⟩
  obtain ⟨first, hfirst⟩ := Option.isSome_iff_exists.mp hfound
  have hnew (name : Text) (hname : name = a.folded) : ¬made.contains name = true := by
    rw [hname, List.contains_iff_mem]
    exact hmade
  rw [chosen, if_neg (hnew _ rfl), hfirst, chosen, if_neg (hnew _ hsame.symm), ← hsame, hfirst]
  rfl

theorem Agree.settle (h : rules.Agree made) (scope : Scope) :
    (rules.settle made scope).Agree (rules.madeAfter made scope) := by
  rintro _ hmema _ hmemb hsame hmade
  obtain ⟨a, ha, rfl⟩ := List.mem_map.mp hmema
  obtain ⟨b, hb, rfl⟩ := List.mem_map.mp hmemb
  rw [folded_chosen] at hsame hmade
  rw [folded_chosen] at hsame
  rw [scope_chosen]
  by_cases hold : a.folded ∈ made
  · rw [chosen_of_made hold, chosen_of_made (hsame ▸ hold)]
    exact h a ha b hb hsame hold
  · exact chosen_under_scope hsame hold ((mem_madeAfter.mp hmade).resolve_left hold)

/-- **What adding a rule comes to.** One rule follows those that are there, in the place of the one
that is added: a rule of its name that was made, or else the rule itself. -/
theorem exists_add_eq (made : List Text) (rules : Registry) (rule : Rule) :
    ∃ new, rules.add made rule = rules ++ [new] ∧ new.place = rule.place ∧
      ((∃ known ∈ rules, new = known.under rule.scope) ∨
        new = rule ∧ ∀ known ∈ rules, known.folded ∈ made → known.folded ≠ rule.folded) := by
  unfold add
  split
  next known hfind =>
    have hfound := List.find?_some hfind
    have hfolded : known.folded = rule.folded :=
      beq_iff_eq.mp (Bool.and_eq_true_iff.mp hfound).2
    refine ⟨_, rfl, ?_, .inl ⟨known, List.mem_of_find?_eq_some hfind, rfl⟩⟩
    rw [Rule.place, Rule.folded_under, Rule.scope_under, hfolded]
    rfl
  next hfind =>
    refine ⟨rule, rfl, rfl, .inr ⟨rfl, fun known hknown hmade hsame => ?_⟩⟩
    refine List.find?_eq_none.mp hfind known hknown ?_
    rw [List.contains_iff_mem.mpr hmade, hsame, beq_self_eq_true]
    rfl

/-- A rule that is added is listed. -/
theorem map_place_add (made : List Text) (rules : Registry) (rule : Rule) :
    (rules.add made rule).map Rule.place = rules.map Rule.place ++ [rule.place] := by
  obtain ⟨new, hadd, hplace, -⟩ := exists_add_eq made rules rule
  rw [hadd, List.map_append, List.map_singleton, hplace]

theorem Agree.add (h : rules.Agree made) (rule : Rule) : (rules.add made rule).Agree made := by
  -- the new rule is the same as those of its name that were made
  have happend {new : Rule} (hnew : ∀ a ∈ rules, a.folded = new.folded → a.folded ∈ made →
      a.under new.scope = new ∧ new.under a.scope = a) : Agree (rules ++ [new]) made := by
    intro a hmema b hmemb hsame hmade
    rcases List.mem_append.mp hmema with ha | ha <;> rcases List.mem_append.mp hmemb with hb | hb
    · exact h a ha b hb hsame hmade
    · rw [List.mem_singleton.mp hb] at hsame ⊢
      exact (hnew a ha hsame hmade).1
    · rw [List.mem_singleton.mp ha] at hsame hmade ⊢
      exact (hnew b hb hsame.symm (hsame ▸ hmade)).2
    · rw [List.mem_singleton.mp ha, List.mem_singleton.mp hb]
      rfl
  obtain ⟨new, hadd, -, hnew⟩ := exists_add_eq made rules rule
  rw [hadd]
  refine happend fun a ha hsame hmade => ?_
  rcases hnew with ⟨known, hknown, rfl⟩ | ⟨rfl, hnew⟩
  · have heq := h a ha known hknown hsame hmade
    refine ⟨?_, h known hknown a ha hsame.symm (hsame ▸ hmade)⟩
    rw [Rule.scope_under, ← heq, Rule.under_under]
  · exact absurd hsame (hnew a ha hmade)

/-- What is done to each rule alike, whatever its scope, and leaves its name alone, is done to
one rule. -/
theorem Agree.map (h : rules.Agree made) {f : Rule → Rule}
    (hname : ∀ rule, (f rule).folded = rule.folded) (hscope : ∀ rule, (f rule).scope = rule.scope)
    (hunder : ∀ rule scope, f (Rule.under scope rule) = (f rule).under scope) :
    Agree (rules.map f) made := by
  rintro _ hmema _ hmemb hsame hmade
  obtain ⟨a, ha, rfl⟩ := List.mem_map.mp hmema
  obtain ⟨b, hb, rfl⟩ := List.mem_map.mp hmemb
  rw [hname, hname] at hsame
  rw [hname] at hmade
  rw [hscope, ← hunder, h a ha b hb hsame hmade]

end Registry

/-! ### What a session lists -/

namespace Session

/-- A session lists the rules that were loaded: its rules are in their places, and those of the
same name are one rule, if it was made. -/
structure Lists (loaded : List Rule) (session : Session) : Prop where
  /-- Rules stand in the places in which they were loaded. -/
  places : session.rules.map Rule.place = loaded.map Rule.place
  /-- There is one rule to a name. -/
  agree : session.rules.Agree session.made

variable {session : Session} {loaded : List Rule}

theorem Lists.asked (h : session.Lists loaded) (scope : Scope) :
    (session.asked scope).Lists loaded :=
  ⟨(Registry.map_place_settle ..).trans h.places, h.agree.settle scope⟩

theorem Lists.askedAll (h : session.Lists loaded) : session.askedAll.Lists loaded :=
  askedAll_induction (fun _ scope hs => hs.asked scope) h

theorem outlastsLinting_lists (loaded : List Rule) : OutlastsLinting (Lists loaded) where
  asked _ scope h := h.asked scope
  heading _ _ h := ⟨h.places, h.agree⟩
  counts _ _ h := ⟨h.places, h.agree⟩

theorem Lists.addAll (h : session.Lists loaded) (added : List Rule) :
    Lists (loaded ++ added)
      { session with rules := session.rules.addAll session.made added } := by
  induction added generalizing session loaded with
  | nil =>
    rw [List.append_nil]
    exact ⟨h.places, h.agree⟩
  | cons rule added ih =>
    have hrule : Lists (loaded ++ [rule])
        { session with rules := session.rules.add session.made rule } := by
      refine ⟨?_, h.agree.add rule⟩
      rw [List.map_append, List.map_singleton, ← h.places]
      exact Registry.map_place_add ..
    have hadded := ih hrule
    rw [List.append_assoc] at hadded
    exact hadded

/-- Rules can be changed in all their places at once. -/
theorem Lists.map (h : session.Lists loaded) {f : Rule → Rule}
    (hname : ∀ rule, (f rule).folded = rule.folded) (hscope : ∀ rule, (f rule).scope = rule.scope)
    (hunder : ∀ rule scope, f (Rule.under scope rule) = (f rule).under scope) :
    Lists loaded { session with rules := session.rules.map f } :=
  ⟨(Registry.map_place_map hname hscope _).trans h.places, h.agree.map hname hscope hunder⟩

theorem Lists.setSeverity (h : session.Lists loaded) {name : Text} {severity : Severity}
    {rules : Registry} (hrules : session.rules.setSeverity name severity = .ok rules) :
    Lists loaded { session with rules } := by
  unfold Registry.setSeverity at hrules
  split at hrules
  · cases hrules
  · cases hrules
    refine h.map (fun rule => ?_) (fun rule => ?_) fun rule scope => ?_
    · split <;> rfl
    · split <;> rfl
    · change (if Registry.concerns name rule then _ else _) = _
      split <;> rfl

theorem Lists.configure (h : session.Lists loaded) {name values : Text} {rules : Registry}
    (hrules : session.rules.configure name values = .ok rules) :
    Lists loaded { session with rules } := by
  unfold Registry.configure at hrules
  split at hrules
  · cases hrules
  next rule _ =>
    rcases hcheck : rule.check.configure (Text.pieces ':' values) with fault | check
    · rw [hcheck] at hrules
      cases hrules
    · rw [hcheck] at hrules
      cases hrules
      refine h.map (fun other => ?_) (fun other => ?_) fun other scope => ?_
      · split <;> rfl
      · split <;> rfl
      · change (if other.name = name then _ else _) = _
        split <;> rfl

/-- Once all rules were asked for, those of the same name are one rule. -/
theorem Lists.same (h : session.Lists loaded) {a b : Rule} (ha : a ∈ session.askedAll.rules)
    (hb : b ∈ session.askedAll.rules) : a.folded = b.folded ↔ a.under b.scope = b := by
  refine ⟨fun hsame => h.askedAll.agree a ha b hb hsame (mem_made_askedAll ha), fun hsame => ?_⟩
  rw [← hsame]
  rfl

theorem Lists.map_folded (h : session.Lists loaded) :
    session.rules.map Rule.folded = loaded.map Rule.folded := by
  have hplaces := congrArg (List.map Prod.snd) h.places
  rw [List.map_map, List.map_map] at hplaces
  exact hplaces

/-- A relation that distinguishes rules as their names do holds between all rules exactly if all
rules that were loaded have different names. -/
theorem Lists.pairwise_iff (h : session.Lists loaded) {R : Rule → Rule → Prop}
    (hR : ∀ a ∈ session.rules, ∀ b ∈ session.rules, R a b ↔ a.folded ≠ b.folded) :
    session.rules.all.Pairwise R ↔ (loaded.map Rule.folded).Nodup := by
  have hperm := session.rules.all_perm
  rw [← h.map_folded, ← (hperm.map Rule.folded).nodup_iff, List.Nodup, List.pairwise_map]
  exact List.Pairwise.iff_of_mem fun ha hb =>
    hR _ (hperm.mem_iff.mp ha) _ (hperm.mem_iff.mp hb)

/-- **A rule is applied as often as rules of its name were loaded** for the scope. -/
theorem Lists.count_active (h : session.Lists loaded) (scope : Scope) {rule : Rule}
    (hrule : rule ∈ (session.asked scope).rules.active scope) :
    ((session.asked scope).rules.active scope).count rule =
      loaded.countP fun other => other.scope = scope ∧ other.folded = rule.folded := by
  obtain ⟨hmem, hscope⟩ := Registry.mem_of_mem_active hrule
  have hactive : rule.active = true := (List.mem_filter.mp hrule).2
  have hmade := made_asked session scope rule hmem hscope
  -- the others of its name in this scope are the rule itself
  have hsame (other : Rule) (hother : other ∈ (session.asked scope).rules) :
      (other == rule && (other.active && decide (other.scope = scope))) = true ↔
        decide (other.place = (scope, rule.folded)) = true := by
    simp only [Bool.and_eq_true, beq_iff_eq, decide_eq_true_eq, Rule.place, Prod.mk.injEq]
    constructor
    · rintro ⟨rfl, -, hscope⟩
      exact ⟨hscope, rfl⟩
    · rintro ⟨hother', hfolded⟩
      have heq := (h.asked scope).agree other hother rule hmem hfolded (hfolded ▸ hmade)
      obtain rfl : other = rule := by rwa [hscope, ← hother'] at heq
      exact ⟨rfl, hactive, hother'⟩
  have hplaces (rules : List Rule) :
      (rules.countP fun other => decide (other.place = (scope, rule.folded))) =
        (rules.map Rule.place).countP (· = (scope, rule.folded)) := by
    rw [List.countP_map]
    rfl
  rw [List.count_eq_countP, Registry.active, Registry.ofScope, List.countP_filter,
    List.countP_filter]
  simp only [Bool.and_assoc]
  rw [List.countP_congr hsame, hplaces, (h.asked scope).places, ← hplaces]
  refine List.countP_congr fun other _ => ?_
  simp only [Rule.place, Prod.mk.injEq, decide_eq_true_eq]

end Session

/-! ### What is loaded -/

namespace Session

variable {α β : Type}

/-- What two actions load, one after the other, where the first one may stop. -/
def thenLoaded (first : Action α) (loaded : Session → List Rule) (more : α → Session → List Rule)
    (session : Session) : List Rule :=
  loaded session ++
    match first session with
    | ⟨_, _, after, .ok a⟩ => more a after
    | ⟨_, _, _, .error _⟩ => []

/-- The rules that an option loads. `nested` has those that the arguments of an argument file
load. -/
def loadedByUse (tree : FileTree) (nested : Settings → List Text → Session → List Rule)
    (settings : Settings) (use : Use) : Session → List Rule :=
  match use.switch with
  | .rulefile => fun _ => rulesAt tree use.value
  | .argumentfile => thenLoaded (argumentsIn tree use.value) (fun _ => []) (nested settings)
  | _ => fun _ => []

/-- The rules that options load, one after the other. -/
def loadedByUses (perform : Settings → Use → Action Settings)
    (loadedBy : Settings → Use → Session → List Rule) (settings : Settings) :
    List Use → Session → List Rule
  | [] => fun _ => []
  | use :: uses => thenLoaded (perform settings use) (loadedBy settings use) fun reached =>
      loadedByUses perform loadedBy reached uses

/-- The rules that arguments load, with argument files nested to the given depth. Words that
cannot be read load nothing. -/
def loadedByArguments (tree : FileTree) : (depth : Nat) → Settings → List Text →
    Session → List Rule
  | 0, _, _ => fun _ => []
  | depth + 1, settings, arguments =>
    match Plan.ofWords arguments with
    | .ok plan =>
      loadedByUses (perform tree (takeArguments tree depth))
        (loadedByUse tree (loadedByArguments tree depth)) settings plan.uses
    | .error _ => fun _ => []

/-- Whether it comes to its end or not, an action lists the given rules after those that were
listed before. -/
def Adds (action : Action α) (added : Session → List Rule) : Prop :=
  ∀ session loaded, session.Lists loaded →
    (action session).session.Lists (loaded ++ added session)

theorem adds_of_maintains {action : Action α} (h : ∀ loaded, Maintains (Lists loaded) action) :
    Adds action fun _ => [] := by
  intro session loaded hlists
  rw [List.append_nil]
  exact h loaded session hlists

theorem adds_andThen {first : Action α} {next : α → Action β} {added : Session → List Rule}
    {more : α → Session → List Rule} (hfirst : Adds first added)
    (hnext : ∀ a, Adds (next a) (more a)) :
    Adds (andThen first next) (thenLoaded first added more) := by
  intro session loaded hlists
  have h := hfirst session loaded hlists
  rcases heq : first session with ⟨out, err, after, stop | a⟩
  · rw [heq] at h
    rw [andThen_of_error heq, thenLoaded, heq, List.append_nil]
    exact h
  · rw [heq] at h
    rw [andThen_of_ok heq, thenLoaded, heq, ← List.append_assoc]
    exact hnext a after _ h

/-- What follows may load nothing. -/
theorem Adds.andThen_maintains {first : Action α} {next : α → Action β}
    {added : Session → List Rule} (hfirst : Adds first added)
    (hnext : ∀ a loaded, Maintains (Lists loaded) (next a)) : Adds (andThen first next) added := by
  have hadded : thenLoaded first added (fun _ _ => []) = added := by
    funext session
    rw [thenLoaded]
    split <;> exact List.append_nil _
  rw [← hadded]
  exact adds_andThen hfirst fun a => adds_of_maintains (hnext a)

theorem adds_revise {revision : Registry → Except Fault Registry}
    (h : ∀ {session : Session} {loaded : List Rule} {rules : Registry}, session.Lists loaded →
      revision session.rules = .ok rules → Lists loaded { session with rules }) :
    Adds (revise revision) fun _ => [] := by
  refine adds_of_maintains fun loaded session hlists => ?_
  rw [revise]
  split
  next rules hrevision => exact h hlists.askedAll hrevision
  · exact hlists.askedAll

theorem adds_loadRules (tree : FileTree) (path : Text) :
    Adds (loadRules tree path) fun _ => rulesAt tree path := by
  intro session loaded hlists
  obtain ⟨complaint, hload⟩ := loadRules_eq tree path
  rw [hload]
  exact hlists.addAll _

/-- Reading argument files changes nothing but what is left of standard input. -/
theorem maintains_argumentsIn (tree : FileTree) (path : Text) (loaded : List Rule) :
    Maintains (Lists loaded) (argumentsIn tree path) := by
  have hexpand (bound : Nat) (arguments : List Text) :
      Maintains (Lists loaded) (expandArguments tree bound arguments) := by
    induction bound generalizing arguments with
    | zero => exact maintains_fail _
    | succ bound ih =>
      unfold expandArguments
      split
      · exact maintains_done _
      · refine maintains_bind ?_ fun text => ih _
        unfold readArgumentFile
        split
        · refine maintains_bind maintains_current fun _ => maintains_bind ?_ fun _ =>
            maintains_done _
          exact maintains_update fun _ h => ⟨h.places, h.agree⟩
        · split
          · exact maintains_done _
          · exact maintains_fail _
  exact maintains_bind maintains_current fun session => hexpand session.mentionBound _

variable {tree : FileTree}

/-- The options that change rules leave them in their places, and one loads rules. -/
theorem adds_deed (use : Use) (nested : Settings → List Text → Session → List Rule)
    (settings : Settings) (h : use.switch ≠ .argumentfile) :
    Adds (use.deed tree) (loadedByUse tree nested settings use) := by
  have hsevere (name : Text) (severity : Severity) :
      Adds (setSeverity name severity) fun _ => [] := by
    rw [setSeverity_eq_revise]
    exact adds_revise fun hlists hrules => hlists.setSeverity hrules
  obtain ⟨switch, value⟩ := use
  cases switch with
  | argumentfile => exact absurd rfl h
  | rulefile => exact adds_loadRules tree value
  | error => exact hsevere value .error
  | ignore => exact hsevere value .ignore
  | warning => exact hsevere value .warning
  | configure =>
    change Adds (configure value) fun _ => []
    rw [configure_eq_revise]
    split
    · exact adds_of_maintains fun _ => maintains_fail _
    · exact adds_revise fun hlists hrules => hlists.configure hrules
  | help =>
    exact adds_of_maintains fun _ => maintains_bind (maintains_print _) fun _ => maintains_stop _
  | extension =>
    exact adds_of_maintains fun _ => maintains_update fun _ h => ⟨h.places, h.agree⟩
  | _ => exact adds_of_maintains fun _ => maintains_done ()

theorem adds_perform {nested : Settings → List Text → Action Settings}
    {loaded : Settings → List Text → Session → List Rule}
    (hnested : ∀ settings arguments, Adds (nested settings arguments) (loaded settings arguments))
    (settings : Settings) (use : Use) :
    Adds (perform tree nested settings use) (loadedByUse tree loaded settings use) := by
  by_cases h : use.switch = .argumentfile
  · obtain ⟨switch, path⟩ := use
    obtain rfl : switch = .argumentfile := h
    rw [perform_argumentfile]
    exact adds_andThen (adds_of_maintains (maintains_argumentsIn tree path)) (hnested settings)
  · rw [perform_eq h]
    exact (adds_deed use loaded settings h).andThen_maintains fun _ _ => maintains_done _

theorem adds_performAll {perform : Settings → Use → Action Settings}
    {loadedBy : Settings → Use → Session → List Rule}
    (hperform : ∀ settings use, Adds (perform settings use) (loadedBy settings use))
    (settings : Settings) (uses : List Use) :
    Adds (performAll perform settings uses) (loadedByUses perform loadedBy settings uses) := by
  induction uses generalizing settings with
  | nil => exact adds_of_maintains fun _ => maintains_done settings
  | cons use uses ih => exact adds_andThen (hperform settings use) ih

theorem maintains_failUsage (fault : UsageFault) (loaded : List Rule) :
    Maintains (Lists loaded) (failUsage fault : Action α) :=
  maintains_bind (maintains_complain _) fun _ => maintains_stop _

/-- Arguments list the rules that they load, at whatever depth. -/
theorem adds_takeArguments (depth : Nat) (settings : Settings) (arguments : List Text) :
    Adds (takeArguments tree depth settings arguments)
      (loadedByArguments tree depth settings arguments) := by
  induction depth generalizing settings arguments with
  | zero => exact adds_of_maintains fun _ => maintains_fail _
  | succ depth ih =>
    rw [takeArguments_succ_eq, loadedByArguments]
    rcases Plan.ofWords arguments with fault | plan
    · change Adds (andThen (failUsage fault) _) _
      rw [failUsage_andThen]
      exact adds_of_maintains (maintains_failUsage fault)
    · change Adds (follow _ settings plan) _
      refine (adds_performAll (adds_perform ih) settings plan.uses).andThen_maintains
        fun reached loaded => ?_
      unfold conclude
      split
      · exact maintains_done _
      · exact maintains_failUsage _ loaded

/-- Nothing is loaded after the arguments have been taken up. -/
theorem maintains_proceed (settings : Settings) (loaded : List Rule) :
    Maintains (Lists loaded) (proceed tree settings) := by
  have hnames (rules : Registry) (names : List Text) :
      Maintains (Lists loaded) (checkNames rules names) := by
    induction names with
    | nil => exact maintains_done ()
    | cons name names ih =>
      rw [checkNames]
      split
      · exact ih
      · exact maintains_fail _
  have hask : Maintains (Lists loaded) askAll :=
    maintains_bind (maintains_update fun _ h => h.askedAll) fun _ =>
      maintains_bind maintains_current fun _ => maintains_done _
  refine maintains_bind (maintains_update fun _ h => ⟨h.places, h.agree⟩) fun _ => ?_
  split
  · exact maintains_bind (maintains_print _) fun _ => maintains_done 0
  split
  · refine maintains_bind ?_ fun _ => maintains_done 0
    exact maintains_bind hask fun _ => maintains_forEach (fun _ => maintains_print _) _
  split
  · refine maintains_bind ?_ fun _ => maintains_done 0
    refine maintains_bind hask fun rules => maintains_bind (hnames _ _) fun _ => ?_
    exact maintains_forEach (fun _ => maintains_print _) _
  · refine maintains_bind (maintains_update fun _ h => ⟨h.places, h.agree⟩) fun _ => ?_
    refine maintains_bind (maintains_forEach ?_ _) fun _ => ?_
    · exact (outlastsLinting_lists loaded).lintPath tree
    · exact maintains_bind maintains_current fun _ => maintains_done _

theorem adds_run (arguments : List Text) :
    Adds (run tree arguments) (loadedByArguments tree nestingBound {} arguments) := by
  rw [run_eq]
  exact (adds_takeArguments nestingBound {} arguments).andThen_maintains maintains_proceed

/-! ### What is done in a session -/

/-- A step in which rules can be loaded or made. -/
inductive Deed
  /-- A rule pack is loaded. -/
  | load (tree : FileTree) (path : Text)
  /-- The rules of a scope are asked for. -/
  | ask (scope : Scope)
  /-- There is a run, with something on standard input. -/
  | run (tree : FileTree) (input : Text) (arguments : List Text)

namespace Deed

/-- The session after a step, whatever comes of it. -/
def after (session : Session) : Deed → Session
  | load tree path => (loadRules tree path session).session
  | ask scope => session.asked scope
  | run tree input arguments => (Session.run tree arguments { session with input }).session

/-- The rules that are loaded in a step. -/
def loaded (session : Session) : Deed → List Rule
  | load tree path => rulesAt tree path
  | ask _ => []
  | run tree input arguments =>
    loadedByArguments tree nestingBound {} arguments { session with input }

/-- The rules that are loaded in steps, one after the other. -/
def loadedInAll (session : Session) : List Deed → List Rule
  | [] => []
  | deed :: deeds => deed.loaded session ++ loadedInAll (deed.after session) deeds

theorem lists_after (deed : Deed) {session : Session} {before : List Rule}
    (h : session.Lists before) : (deed.after session).Lists (before ++ deed.loaded session) := by
  cases deed with
  | load tree path => exact adds_loadRules tree path session before h
  | ask scope =>
    have hasked := h.asked scope
    rwa [← List.append_nil before] at hasked
  | run tree input arguments =>
    exact adds_run arguments { session with input } before ⟨h.places, h.agree⟩

theorem lists_foldl (deeds : List Deed) {session : Session} {before : List Rule}
    (h : session.Lists before) :
    (deeds.foldl after session).Lists (before ++ loadedInAll session deeds) := by
  induction deeds generalizing session before with
  | nil =>
    rw [loadedInAll, List.append_nil]
    exact h
  | cons deed deeds ih =>
    have hdeeds := ih (deed.lists_after h)
    rw [List.append_assoc] at hdeeds
    exact hdeeds

end Deed

/-- **Rules are listed as often as they are loaded.** After any steps, the rules that are listed
when all of them are asked for stand in the places of the standing rules and of the rules that
were loaded, and there is one rule to a name. So nothing is listed twice exactly if none of the
loaded rules have the same name.

When a file is linted, each round applies the rules of its scope as they are by then, and each
rule that is not ignored is applied in it as often as rules of its name were loaded for this
scope. -/
theorem listed_after (deeds : List Deed) :
    let session := deeds.foldl Deed.after {}
    let loaded := Registry.standing ++ Deed.loadedInAll {} deeds
    let listed := session.askedAll.rules
    listed.map Rule.place = loaded.map Rule.place ∧
    (∀ a ∈ listed.all, ∀ b ∈ listed.all, a.folded = b.folded → a.under b.scope = b) ∧
    (listed.all.Pairwise (fun a b => a.under b.scope ≠ b) ↔ (loaded.map Rule.folded).Nodup) ∧
    ((listed.all.map Rule.name).Nodup ↔ (loaded.map Rule.folded).Nodup) ∧
    ∀ path (document : Document) before round after, document.rounds = before ++ round :: after →
      let reached := (forEach (playRound document.path) before (session.opened path)).session
      let applied := round.applications (reached.asked round.1).rules
      playRound document.path round reached =
        forEach (reportVerdict document.path) applied (reached.asked round.1) ∧
      ∀ rule ∈ (reached.asked round.1).rules.active round.1,
        (applied.map Prod.fst).count rule =
          loaded.countP fun other => other.scope = round.1 ∧ other.folded = rule.folded := by
  intro session loaded listed
  have hlists : session.Lists loaded := by
    have hstart : ({} : Session).Lists Registry.standing :=
      ⟨rfl, fun a ha b hb hsame _ => Registry.coherent_standing a ha b hb hsame⟩
    exact Deed.lists_foldl deeds hstart
  have hsame {a b : Rule} (ha : a ∈ listed) (hb : b ∈ listed) :
      a.folded = b.folded ↔ a.under b.scope = b := hlists.same ha hb
  refine ⟨hlists.askedAll.places, ?_, ?_, ?_, ?_⟩
  · intro a ha b hb
    exact (hsame (Registry.mem_all_iff.mp ha) (Registry.mem_all_iff.mp hb)).mp
  · exact hlists.askedAll.pairwise_iff fun a ha b hb => not_congr (hsame ha hb).symm
  · rw [List.Nodup, List.pairwise_map]
    refine hlists.askedAll.pairwise_iff fun a ha b hb => not_congr ⟨congrArg Text.lower, ?_⟩
    intro hfolded
    rw [← (hsame ha hb).mp hfolded]
    rfl
  · intro path document before round after _ reached applied
    have hreached : reached.Lists loaded :=
      maintains_forEach ((outlastsLinting_lists loaded).playRound document.path) before
        (session.opened path) ⟨hlists.places, hlists.agree⟩
    refine ⟨playRound_eq document.path round reached, fun rule hrule => ?_⟩
    rw [← hreached.count_active round.1 hrule]
    refine congrArg (List.count rule) ?_
    change (((reached.asked round.1).rules.active round.1).map _).map Prod.fst = _
    rw [List.map_map]
    exact List.map_id _

/-- A folder with a rule pack of one rule. -/
def packTree : FileTree where
  entries := [.file "echo.py" { bytes := [], pack := some .kindEcho }]
  workingFolder := []

/-- A pack that is loaded in a step and again by an option has its rule applied twice. -/
theorem listed_after_twice :
    let deeds : List Deed := [.load packTree "echo.py", .run packTree [] ["-R", "echo.py"]]
    let session := deeds.foldl Deed.after {}
    let rule : Rule := .ofCheck (.general .echoKind) .warning
    ¬(session.askedAll.rules.all.map Rule.name).Nodup ∧
      ∀ path document,
        ((Round.applications ((session.opened path).asked .general).rules
          (.general, .document document)).map Prod.fst).count rule = 2 := by
  intro deeds session rule
  have hloaded : Deed.loadedInAll {} deeds = [rule, rule] := by decide +kernel
  obtain ⟨-, -, -, hnodup, happlied⟩ := listed_after deeds
  rw [hloaded] at hnodup happlied
  refine ⟨fun h => absurd (hnodup.mp h) (by decide +kernel), fun path document => ?_⟩
  have hrule : rule ∈ (session.asked .general).rules.active .general := by decide +kernel
  have htwice : ((Registry.standing ++ [rule, rule]).countP fun other =>
      other.scope = .general ∧ other.folded = rule.folded) = 2 := by decide +kernel
  obtain ⟨-, hcount⟩ := happlied path document [] (.general, .document document) _ rfl
  exact (hcount rule hrule).trans htwice

end Session

end SuiteLint
