import GasAdvisor.Proofs.Rule.Inquiry

/-!
# What settings change

Settings act on the suggestions of a function, not on the rules that make them. Although an inquiry
consults the settings at each suggestion and goes through its groups by early ends and exclusive
branches, the suggestions it makes under some settings are those under the standard settings, without
the ones of the rules that are switched off (`RuleSettings.admits`) and with the confidence of the others
replaced (`RuleSettings.relabel`): this is `findings_eq_map_relabel`. So switching a rule off takes away
its own suggestions and no others.
-/

namespace GasAdvisor

namespace RuleSettings

/-- Whether the rule behind a suggestion is switched on. What no rule made is admitted. -/
def admits (settings : RuleSettings) (s : Suggestion) : Bool :=
  !s.rule.any settings.isDisabled

/-- A suggestion with the confidence that the settings give to its rule, its own being the one to
fall back on. Nothing else of it changes. -/
def relabel (settings : RuleSettings) (s : Suggestion) : Suggestion :=
  { s with
    confidence := match s.rule with
      | some id => settings.confidenceFor id s.confidence
      | none => s.confidence }

/-- Settings with one more rule switched off. -/
def switchOff (settings : RuleSettings) (id : String) : RuleSettings :=
  { settings with disabled := id :: settings.disabled }

@[simp] theorem isDisabled_standard (id : String) : standard.isDisabled id = false := rfl

theorem isDisabled_switchOff (settings : RuleSettings) (id other : String) :
    (settings.switchOff id).isDisabled other = (other == id || settings.isDisabled other) :=
  List.contains_cons

end RuleSettings

namespace Rule

variable (settings : RuleSettings) (s : Subject)

/-- **Settings find a rule by the suggestion it makes**, whatever the settings under which it was
made. -/
theorem admits_suggestion (made : RuleSettings) (rule : Rule) :
    settings.admits (suggestion made s rule) = !settings.isDisabled rule.id := rfl

/-- A suggestion made under standard settings carries the confidence of its rule, so replacing that
confidence later is replacing it where the suggestion is made. -/
theorem relabel_suggestion (rule : Rule) :
    settings.relabel (suggestion .standard s rule) = suggestion settings s rule := rfl

theorem suggestion_switchOff (id : String) :
    suggestion (settings.switchOff id) s = suggestion settings s := rfl

variable (f : Function)

/-- Under standard settings all rules that apply make their suggestion. -/
theorem findings_standard :
    findings .standard f =
      (all.filter (·.applies (Subject.of f))).map (suggestion .standard (Subject.of f)) := by
  simp only [findings, RuleSettings.isDisabled_standard, Bool.not_false, Bool.true_and]

theorem findings_eq_map_filter :
    findings settings f =
      ((findings .standard f).filter settings.admits).map settings.relabel := by
  have hadmits : settings.admits ∘ suggestion .standard (Subject.of f) =
      fun rule => !settings.isDisabled rule.id :=
    funext fun rule => admits_suggestion settings (Subject.of f) .standard rule
  have hrelabel : settings.relabel ∘ suggestion .standard (Subject.of f) =
      suggestion settings (Subject.of f) :=
    funext fun rule => relabel_suggestion settings (Subject.of f) rule
  rw [findings_standard, List.filter_map, List.map_map, List.filter_filter, hadmits, hrelabel]
  rfl

/-- **Switching a rule off takes away its own suggestions and no others.** -/
theorem findings_switchOff (id : String) :
    findings (settings.switchOff id) f =
      (findings settings f).filter fun found => found.rule ≠ some id := by
  have hown : (fun found : Suggestion => decide (found.rule ≠ some id)) ∘
      suggestion settings (Subject.of f) = fun rule => !(rule.id == id) := by
    funext rule
    rw [Bool.eq_iff_iff]
    simp [suggestion]
  rw [findings, findings, List.filter_map, List.filter_filter, hown, suggestion_switchOff]
  congr 2
  funext rule
  rw [RuleSettings.isDisabled_switchOff, Bool.not_or, Bool.and_assoc]

end Rule

/-- **Settings filter and relabel the suggestions of a function.** Under any settings the suggestions
that an inquiry makes are those under the standard settings, in the same order, less those of the rules
that are switched off, and with each confidence replaced by the one that the settings give to the rule.
So a rule has a suggestion exactly if it is not switched off and has one under the standard settings,
and switching a rule off takes nothing else away and adds nothing. -/
theorem findings_eq_map_relabel (settings : RuleSettings) (f : Function) :
    Rule.inquire settings f = Rule.findings settings f ∧
    Rule.findings settings f =
      ((Rule.findings .standard f).filter settings.admits).map settings.relabel ∧
    (∀ id, (∃ s ∈ Rule.findings settings f, s.rule = some id) ↔
      settings.isDisabled id = false ∧ ∃ s ∈ Rule.findings .standard f, s.rule = some id) ∧
    ∀ id, Rule.findings (settings.switchOff id) f =
      (Rule.findings settings f).filter fun s => s.rule ≠ some id := by
  refine ⟨Rule.inquire_eq_findings settings f, Rule.findings_eq_map_filter settings f, fun id => ?_,
    Rule.findings_switchOff settings f⟩
  rw [Rule.findings_eq_map_filter]
  constructor
  · rintro ⟨s, hs, hrule⟩
    obtain ⟨s', hs', rfl⟩ := List.mem_map.1 hs
    obtain ⟨hmem, hadmitted⟩ := List.mem_filter.1 hs'
    have hrule' : s'.rule = some id := hrule
    rw [RuleSettings.admits, hrule'] at hadmitted
    exact ⟨by simpa using hadmitted, s', hmem, hrule'⟩
  · rintro ⟨hon, s, hs, hrule⟩
    have hadmitted : settings.admits s = true := by
      rw [RuleSettings.admits, hrule, Option.any_some, hon, Bool.not_false]
    exact ⟨settings.relabel s, List.mem_map.2 ⟨s, List.mem_filter.2 ⟨hs, hadmitted⟩, rfl⟩, hrule⟩

end GasAdvisor
