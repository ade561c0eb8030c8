import GasAdvisor.Proofs.Rule.Inquiry
import GasAdvisor.Proofs.Suggestion.TotalOrder

/-!
# The findings of the rules

What an inquiry finds names registered rules in the order of the registry, each at most once, and none
that is switched off; which of them, is up to the function alone. Each finding is a static suggestion
with a confidence from zero to one, whatever the settings ask for: a rule's own confidence is one
(`Rule.confidence_inUnit`), and what replaces it is brought into that range or, if it is not finite,
passed over (`RuleSettings.confidenceFor_inUnit`). This is `Rule.inquire_registered_in_order`.

What is set in that range is taken as it is (`RuleSettings.confidenceFor_eq`).
-/

namespace GasAdvisor

/-- A number from zero to one. What is not a number is not in there. -/
def InUnit (x : Float) : Prop :=
  0 ≤ x ∧ x ≤ 1

namespace RuleSettings

/-- **A finite number is brought into the range from zero to one.** -/
theorem clamp_inUnit {x : Float} (h : x.isFinite = true) : InUnit (clamp x) := by
  have hx : x.isNaN = false := isNaN_of_isFinite h
  have hzero : (0 : Float).isNaN = false := by decide +kernel
  have hone : (1 : Float).isNaN = false := by decide +kernel
  unfold clamp
  split
  · show (0 : Float) ≤ 0 ∧ (0 : Float) ≤ 1
    decide +kernel
  · next hneg =>
    split
    · show (0 : Float) ≤ 1 ∧ (1 : Float) ≤ 1
      decide +kernel
    · next hbig => exact ⟨le_of_not_lt hx hzero hneg, le_of_not_lt hone hx hbig⟩

theorem confidenceFor_inUnit (settings : RuleSettings) (id : String) {own : Float}
    (h : InUnit own) : InUnit (settings.confidenceFor id own) := by
  unfold confidenceFor
  split
  · split
    · next hfinite => exact clamp_inUnit hfinite
    · exact h
  · exact h

theorem isFinite_of_inUnit {x : Float} (h : InUnit x) : x.isFinite = true := by
  have hlow : ((0 : Float).toModel.unpack.compare x.toModel.unpack).any (·.isLE) = true :=
    of_decide_eq_true h.1
  have hhigh : (x.toModel.unpack.compare (1 : Float).toModel.unpack).any (·.isLE) = true :=
    of_decide_eq_true h.2
  have hzero : (0 : Float).toModel.unpack = .zero .positive := rfl
  have hone : (1 : Float).toModel.unpack = .finite .positive (2 ^ 52) (-52) (by decide) := rfl
  rw [hzero] at hlow
  rw [hone] at hhigh
  show x.toModel.unpack.isFinite = true
  cases hx : x.toModel.unpack with
  | notANumber =>
    rw [hx] at hlow
    cases hlow
  | infinity s =>
    rw [hx] at hlow hhigh
    cases s with
    | positive => cases hhigh
    | negative => cases hlow
  | zero s => rfl
  | finite s m e _ => rfl

/-- **What confidence is taken.** One that is set is taken as it is if it lies between zero and one, and
else the nearer of the two. Where nothing is set, or nothing finite, it is the rule's own. -/
theorem confidenceFor_eq (settings : RuleSettings) (id : String) (own : Float) :
    (settings.confidence.lookup id = none → settings.confidenceFor id own = own) ∧
    ∀ x, settings.confidence.lookup id = some x →
      (InUnit x → settings.confidenceFor id own = x) ∧
      (x.isFinite = true → x < 0 → settings.confidenceFor id own = 0) ∧
      (x.isFinite = true → 1 < x → settings.confidenceFor id own = 1) ∧
      (x.isFinite = false → settings.confidenceFor id own = own) := by
  refine ⟨fun hunset => by rw [confidenceFor, hunset], fun x hset => ?_⟩
  have hvalue : settings.confidenceFor id own = if x.isFinite then clamp x else own := by
    rw [confidenceFor, hset]
  have hzero : (0 : Float).isNaN = false := by decide +kernel
  have hone : (1 : Float).isNaN = false := by decide +kernel
  refine ⟨fun hx => ?_, fun hfinite hlow => ?_, fun hfinite hhigh => ?_, fun hnot => ?_⟩
  · have hfinite := isFinite_of_inUnit hx
    have hnan := isNaN_of_isFinite hfinite
    rw [hvalue, if_pos hfinite, clamp, if_neg (not_lt_of_le hzero hnan hx.1),
      if_neg (not_lt_of_le hnan hone hx.2)]
  · rw [hvalue, if_pos hfinite, clamp, if_pos hlow]
  · have hnan := isNaN_of_isFinite hfinite
    have horder : signedBits (0 : Float).toBits.toNat < signedBits (1 : Float).toBits.toNat := by
      decide +kernel
    have hnot : ¬ x < 0 := by
      rw [lt_iff_signedBits hone hnan] at hhigh
      rw [lt_iff_signedBits hnan hzero]
      omega
    rw [hvalue, if_pos hfinite, clamp, if_neg hnot, if_pos hhigh]
  · rw [hvalue, hnot]
    rfl

end RuleSettings

namespace Rule

/-! ## The registry -/

/-- The identifiers of all rules, in order. -/
def ids : List String :=
  all.map id

theorem mem_all (rule : Rule) : rule ∈ all := by
  cases rule <;> decide

theorem nodup_ids : ids.Nodup := by
  decide

/-- No two rules have one identifier. -/
theorem id_inj {rule rule' : Rule} : rule.id = rule'.id ↔ rule = rule' :=
  ⟨fun h => List.inj_on_of_nodup_map nodup_ids (mem_all rule) (mem_all rule') h, congrArg id⟩

theorem confidence_inUnit (rule : Rule) : InUnit rule.confidence := by
  show 0 ≤ rule.confidence ∧ rule.confidence ≤ 1
  cases rule <;> decide +kernel

/-! ## Findings -/

variable (settings : RuleSettings) (f : Function)

/-- The rules that are switched on and apply to a function, in order. -/
def found : List Rule :=
  all.filter fun rule => !settings.isDisabled rule.id && rule.applies (Subject.of f)

theorem mem_found {rule : Rule} :
    rule ∈ found settings f ↔
      settings.isDisabled rule.id = false ∧ rule.applies (Subject.of f) = true := by
  simp [found, mem_all]

/-- **A rule is named by an inquiry exactly if it is switched on and applies.** -/
theorem mem_rules_inquire_iff {rule : Rule} :
    some rule.id ∈ (inquire settings f).map (·.rule) ↔
      settings.isDisabled rule.id = false ∧ rule.applies (Subject.of f) = true := by
  have hrules : (inquire settings f).map (·.rule) =
      (found settings f).map fun rule => some rule.id := by
    rw [inquire_eq_findings, findings, List.map_map]
    rfl
  rw [← mem_found, hrules, List.mem_map]
  constructor
  · rintro ⟨rule', hmem, hid⟩
    exact id_inj.1 (Option.some.inj hid) ▸ hmem
  · exact fun hmem => ⟨rule, hmem, rfl⟩

/-- **A sublist of a list without repetitions goes up in that list.** -/
theorem pairwise_idxOf_of_sublist {α : Type} [BEq α] [LawfulBEq α] {l l' : List α}
    (hl : l.Nodup) (h : l'.Sublist l) : l'.Pairwise fun x y => l.idxOf x < l.idxOf y := by
  refine List.Pairwise.sublist h (List.pairwise_iff_getElem.2 fun i j hi hj hij => ?_)
  rwa [hl.idxOf_getElem, hl.idxOf_getElem]

/-- **An inquiry finds registered rules, in the order of the registry.** The identifiers of what it
finds form a sublist of those of all rules: they go up strictly, and none comes twice. A rule is among
them exactly if it is switched on and applies to the function; so none of them is switched off, and it
makes no difference what identifiers of no rule the settings mention. Every finding is static, and its
confidence is a number from zero to one. -/
theorem inquire_registered_in_order :
    ∃ named : List String,
      (inquire settings f).map (·.rule) = named.map some ∧
      named.Sublist ids ∧
      (named.Pairwise fun id id' => ids.idxOf id < ids.idxOf id') ∧
      named.Nodup ∧
      (∀ id ∈ named, settings.isDisabled id = false) ∧
      (∀ rule : Rule, rule.id ∈ named ↔
        settings.isDisabled rule.id = false ∧ rule.applies (Subject.of f) = true) ∧
      ∀ s ∈ inquire settings f, s.origin = .static ∧ 0 ≤ s.confidence ∧ s.confidence ≤ 1 := by
  have hsub : ((found settings f).map id).Sublist ids := List.filter_sublist.map id
  refine ⟨(found settings f).map id, ?_, hsub, pairwise_idxOf_of_sublist nodup_ids hsub,
    nodup_ids.sublist hsub, fun id' hid => ?_, fun rule => ?_, fun s hs => ?_⟩
  · rw [inquire_eq_findings, findings, List.map_map, List.map_map]
    rfl
  · obtain ⟨rule, hrule, rfl⟩ := List.mem_map.1 hid
    exact ((mem_found settings f).1 hrule).1
  · rw [← mem_found, List.mem_map]
    exact ⟨fun ⟨rule', hmem, hid⟩ => id_inj.1 hid ▸ hmem, fun hmem => ⟨rule, hmem, rfl⟩⟩
  · rw [inquire_eq_findings] at hs
    obtain ⟨rule, -, rfl⟩ := List.mem_map.1 hs
    exact ⟨rfl, settings.confidenceFor_inUnit rule.id rule.confidence_inUnit⟩

end Rule

end GasAdvisor
