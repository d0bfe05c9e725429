import SuiteLint.Check.Configure
import SuiteLint.Rule
import SuiteLint.RulePack
import SuiteLint.Text.Case

/-!
# The rules of a session

A session has a list of rules. Loading a rule pack adds to it. Rules are taken scope by
scope: those on suites, on resources, on test cases, on keywords, and on any file.

There is only one rule of each name, letter case aside, even if several were loaded. Which
of them it is, is not decided when they are loaded, but when the rules of a scope are asked
for: then each name in this scope for which there is no rule yet gets the first rule of this
name in the scope. From then on the rule has been *made*. It is listed wherever a rule of
its name was loaded, be it in another scope, and whatever changes it changes it in all these
places. A rule of the same name that is loaded later on is listed as the one that was made.

So in the list of rules, all those of a name that was made are the same but for their scope,
and the others are as they were loaded.
-/

namespace SuiteLint

/-- The rules of a session, in the order in which they were loaded. -/
abbrev Registry := List Rule

namespace Registry

/-- The rules of a scope. -/
def ofScope (rules : Registry) (scope : Scope) : List Rule := rules.filter (·.scope = scope)

/-- All rules, scope by scope. -/
def all (rules : Registry) : List Rule :=
  rules.ofScope .suite ++ rules.ofScope .resource ++ rules.ofScope .test ++
    rules.ofScope .keyword ++ rules.ofScope .general

/-- All rules, in the order of their names. -/
def byName (rules : Registry) : List Rule := rules.all.mergeSort fun a b => Text.le a.name b.name

/-- Whether a rule has the given name, letter case aside. -/
def knows (rules : Registry) (name : Text) : Bool := rules.all.any fun rule =>
  Text.sameFolded name rule.name

/-- The standing rules. -/
def standing : Registry := Rule.standing

/-! ### Making rules

In what follows, `made` has the names, in small letters, of the rules that were made. -/

/-- Adds a rule. -/
def add (made : List Text) (rules : Registry) (rule : Rule) : Registry :=
  match rules.find? fun known => made.contains known.folded && known.folded == rule.folded with
  | some known => rules ++ [known.under rule.scope]
  | none => rules ++ [rule]

/-- Adds the rules of a pack. -/
def addAll (made : List Text) (rules : Registry) (added : List Rule) : Registry :=
  added.foldl (add made) rules

/-- The rule that stands in the place of a rule once those of a scope were asked for. -/
def chosen (made : List Text) (rules : Registry) (scope : Scope) (rule : Rule) : Rule :=
  if made.contains rule.folded then rule
  else
    match (rules.ofScope scope).find? (·.folded == rule.folded) with
    | some first => first.under rule.scope
    | none => rule

/-- The rules once those of a scope were asked for. -/
def settle (made : List Text) (rules : Registry) (scope : Scope) : Registry :=
  rules.map (chosen made rules scope)

/-- The names that are made once the rules of a scope were asked for. -/
def madeAfter (made : List Text) (rules : Registry) (scope : Scope) : List Text :=
  made ++ ((rules.ofScope scope).map Rule.folded).filter (!made.contains ·)

/-! ### Severities -/

/-- Whether an option with the given name is meant for a rule. -/
def concerns (name : Text) (rule : Rule) : Bool := name = rule.name || name = "all"

/-- Gives rules a severity: the one of exactly the given name, or all. A name that
no rule has, letter case aside, is a fault. -/
def setSeverity (rules : Registry) (name : Text) (severity : Severity) : Except Fault Registry :=
  if name ≠ "all" ∧ ¬rules.knows name then .error (.unknownRule name)
  else .ok (rules.map fun rule => if concerns name rule then { rule with severity } else rule)

/-! ### Configuration -/

/-- Configures a rule. The values are divided by colons. -/
def configure (rules : Registry) (name values : Text) : Except Fault Registry :=
  match rules.all.find? fun rule => name = rule.name with
  | none => .error (.unknownRule name)
  | some rule => do
    let check ← (rule.check.configure (Text.pieces ':' values)).mapError (.ofRule rule.name)
    return rules.map fun other => if other.name = name then { other with check } else other

end Registry

end SuiteLint
