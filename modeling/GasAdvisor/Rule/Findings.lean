import GasAdvisor.Rule.Basic

/-!
# Findings

The suggestions that the rules make for a function. Settings may switch rules off and replace their
confidence; they change nothing else, neither what a rule asks nor what another rule finds.
-/

namespace GasAdvisor

/-- Settings of the rules. -/
structure RuleSettings where
  /-- The identifiers of the rules that are switched off. -/
  disabled : List String
  /-- The confidence that replaces a rule's own, by the rule's identifier. -/
  confidence : List (String × Float)

namespace RuleSettings

/-- All rules as they are. -/
def standard : RuleSettings := ⟨[], []⟩

/-- Whether a rule is switched off. -/
def isDisabled (settings : RuleSettings) (id : String) : Bool :=
  settings.disabled.contains id

/-- A number brought into the range from zero to one. -/
def clamp (x : Float) : Float :=
  if x < 0 then 0 else if 1 < x then 1 else x

/-- The confidence of a rule: the one that is set, brought into the range from zero to one, or else
`standard`. What is set counts only if it is finite. -/
def confidenceFor (settings : RuleSettings) (id : String) (standard : Float) : Float :=
  match settings.confidence.lookup id with
  | some x => if x.isFinite then clamp x else standard
  | none => standard

/-- The identifiers in the settings that belong to no rule, in ascending order, as often as they are
mentioned. -/
def unknownIds (settings : RuleSettings) : List String :=
  ((settings.disabled ++ settings.confidence.map (·.1)).filter
    fun id => (Rule.ofId? id).isNone).mergeSort (· ≤ ·)

end RuleSettings

namespace Rule

/-- The suggestion of a rule for a function that it applies to. -/
def suggestion (settings : RuleSettings) (s : Subject) (rule : Rule) : Suggestion where
  kind := rule.kind
  message := rule.message s
  confidence := settings.confidenceFor rule.id rule.confidence
  impact := rule.impact
  origin := .static
  estimatedSaving := rule.saving s
  rule := some rule.id

/-- The suggestions of all rules that are switched on and apply, in the order of the rules. -/
def findings (settings : RuleSettings) (f : Function) : List Suggestion :=
  let s := Subject.of f
  (all.filter fun rule => !settings.isDisabled rule.id && rule.applies s).map
    (suggestion settings s)

end Rule

end GasAdvisor
