import GasAdvisor.Proofs.Analysis.Costs
import GasAdvisor.Proofs.Cost.Savings

/-!
# How savings compare with costs

What each suggestion saves of a measured cost is a share of it, so all of them together save no more
than their percentages add up to (`totalPercent`, `mul_potentialSavings_le`). No sum is held against the
cost itself. Savings stay within every cost exactly if the percentages come to one hundred at most
(`potentialSavings_le_self_iff`), and nothing sees to that: the rules alone come to 194 percent at most
(`Rule.totalPercent_findings_le`), since some of them exclude each other, and a provider may answer with
any number of suggestions.

From functions to contracts the bound is carried by sums alone (`Analyzer.savings_within_shares`).
-/

namespace GasAdvisor

/-- The percentages that suggestions save of a measured cost, added up. -/
def totalPercent (suggestions : List Suggestion) : Nat :=
  (suggestions.map fun s => s.impact.percent).sum

/-! ## Savings of a measured cost -/

theorem totalPercent_append (suggestions suggestions' : List Suggestion) :
    totalPercent (suggestions ++ suggestions') =
      totalPercent suggestions + totalPercent suggestions' := by
  rw [totalPercent, List.map_append, List.sum_append]
  rfl

theorem totalPercent_perm {suggestions suggestions' : List Suggestion}
    (h : suggestions.Perm suggestions') :
    totalPercent suggestions = totalPercent suggestions' :=
  (h.map _).sum_eq

theorem totalPercent_le_of_sublist {suggestions suggestions' : List Suggestion}
    (h : suggestions.Sublist suggestions') :
    totalPercent suggestions ≤ totalPercent suggestions' :=
  (h.map _).sum_le_sum fun _ _ => Nat.zero_le _

/-- A share is rounded down. -/
theorem Impact.mul_saving_le (i : Impact) {gas : Nat} (hpos : 0 < gas) :
    100 * i.saving gas ≤ gas * i.percent := by
  rw [saving, if_pos hpos]
  exact Nat.mul_div_le _ 100

/-- **Savings are no more than the percentages of the suggestions come to.** -/
theorem mul_potentialSavings_le (suggestions : List Suggestion) {gas : Nat} (hpos : 0 < gas) :
    100 * potentialSavings suggestions gas ≤ gas * totalPercent suggestions := by
  have hsum : 100 * (suggestions.map fun s => s.impact.saving gas).sum ≤
      gas * totalPercent suggestions := by
    rw [totalPercent, ← List.sum_map_mul_left, ← List.sum_map_mul_left]
    exact List.sum_le_sum fun s _ => s.impact.mul_saving_le hpos
  rw [potentialSavings, Gas.total_eq_min]
  omega

theorem potentialSavings_le_self {suggestions : List Suggestion} {gas : Nat} (hpos : 0 < gas)
    (h : totalPercent suggestions ≤ 100) : potentialSavings suggestions gas ≤ gas := by
  have hshares := mul_potentialSavings_le suggestions hpos
  have hpercent : gas * totalPercent suggestions ≤ gas * 100 := Nat.mul_le_mul_left gas h
  omega

/-- Of a cost of one hundred a suggestion saves its percentage. -/
theorem potentialSavings_hundred (suggestions : List Suggestion) :
    potentialSavings suggestions 100 = min Gas.limit (totalPercent suggestions) := by
  have hshare (i : Impact) : i.saving 100 = i.percent := by cases i <;> rfl
  rw [potentialSavings, Gas.total_eq_min, totalPercent]
  simp only [hshare]

/-- **Savings stay within every measured cost exactly if the percentages come to one hundred at most.** -/
theorem potentialSavings_le_self_iff {suggestions : List Suggestion} :
    (∀ gas, 0 < gas → potentialSavings suggestions gas ≤ gas) ↔ totalPercent suggestions ≤ 100 := by
  constructor
  · intro h
    have hhundred := h 100 (by decide)
    have hlimit : 100 < Gas.limit := by decide
    rw [potentialSavings_hundred] at hhundred
    omega
  · exact fun h gas hpos => potentialSavings_le_self hpos h

/-! ## Percentages of the rules -/

namespace Rule

/-- The percentage of a rule that applies, and nothing for one that does not. -/
def percentOn (s : Subject) (rule : Rule) : Nat :=
  if rule.applies s = true then rule.impact.percent else 0

variable (s : Subject)

theorem percentOn_le (rule : Rule) : percentOn s rule ≤ rule.impact.percent := by
  unfold percentOn
  split <;> omega

theorem percentOn_eq_zero {s : Subject} {rule : Rule} (h : rule.applies s = false) :
    percentOn s rule = 0 :=
  if_neg (by simp [h])

/-- Of the rules on many writes, on few writes and on none at most one applies. -/
theorem percentOn_writes_le :
    percentOn s .batchWrites + percentOn s .singleWrite + percentOn s .viewOrPure ≤ 15 := by
  have hbatch : percentOn s .batchWrites ≤ 15 := percentOn_le s .batchWrites
  have hsingle : percentOn s .singleWrite ≤ 8 := percentOn_le s .singleWrite
  have hview : percentOn s .viewOrPure ≤ 3 := percentOn_le s .viewOrPure
  by_cases hwrite : s.function.hasPattern .storageWrite = true
  · have hnoview : percentOn s .viewOrPure = 0 := percentOn_eq_zero (by simp [applies, hwrite])
    by_cases hmany : fewWrites < s.writes
    · have hnosingle : percentOn s .singleWrite = 0 :=
        percentOn_eq_zero (by simp [applies, hmany])
      omega
    · have hnobatch : percentOn s .batchWrites = 0 := percentOn_eq_zero (by simp [applies, hmany])
      omega
  · have hnobatch : percentOn s .batchWrites = 0 := percentOn_eq_zero (by simp [applies, hwrite])
    have hnosingle : percentOn s .singleWrite = 0 := percentOn_eq_zero (by simp [applies, hwrite])
    omega

/-- One rule is on public functions, the other on external ones. -/
theorem percentOn_visibility_le : percentOn s .external + percentOn s .calldata ≤ 8 := by
  have hexternal : percentOn s .external ≤ 3 := percentOn_le s .external
  have hcalldata : percentOn s .calldata ≤ 8 := percentOn_le s .calldata
  by_cases hpublic : s.function.visibility = .public
  · have hnocalldata : percentOn s .calldata = 0 := percentOn_eq_zero (by simp [applies, hpublic])
    omega
  · have hnoexternal : percentOn s .external = 0 := percentOn_eq_zero (by simp [applies, hpublic])
    omega

/-- The percentages of the rules that apply are added up rule by rule. -/
theorem sum_percentOn (rules : List Rule) :
    ((rules.filter (·.applies s)).map fun rule => rule.impact.percent).sum =
      (rules.map (percentOn s)).sum := by
  induction rules with
  | nil => rfl
  | cons rule rules ih =>
    rw [List.map_cons, List.sum_cons, ← ih, percentOn]
    cases h : rule.applies s <;> simp [h]

/-- The rules that exclude others. -/
def exclusive : List Rule :=
  [.batchWrites, .singleWrite, .viewOrPure, .external, .calldata]

/-- **The rules that apply come to 194 percent at most**: to 23 those that exclude others, and to 171
the others. -/
theorem sum_percentOn_all_le : (all.map (percentOn s)).sum ≤ 194 := by
  have hperm : all.Perm (exclusive ++ all.filter (· ∉ exclusive)) := by decide
  have hexclusive : (exclusive.map (percentOn s)).sum ≤ 15 + 8 := by
    have hwrites := percentOn_writes_le s
    have hvisibility := percentOn_visibility_le s
    simp only [exclusive, List.map_cons, List.map_nil, List.sum_cons, List.sum_nil]
    omega
  have hothers : ((all.filter (· ∉ exclusive)).map (percentOn s)).sum ≤ 171 :=
    (List.sum_le_sum fun rule _ => percentOn_le s rule).trans (by decide)
  rw [(hperm.map (percentOn s)).sum_eq, List.map_append, List.sum_append]
  omega

/-- The findings of the rules come to 194 percent at most, whatever the settings. -/
theorem totalPercent_findings_le (settings : RuleSettings) (f : Function) :
    totalPercent (findings settings f) ≤ 194 := by
  have hon : (all.filter fun rule =>
      !settings.isDisabled rule.id && rule.applies (Subject.of f)).Sublist
        (all.filter (·.applies (Subject.of f))) := by
    rw [← List.filter_filter]
    exact List.filter_sublist
  have hsum := (hon.map fun rule => rule.impact.percent).sum_le_sum fun _ _ => Nat.zero_le _
  rw [sum_percentOn] at hsum
  rw [totalPercent, findings, List.map_map]
  exact hsum.trans (sum_percentOn_all_le (Subject.of f))

end Rule

/-! ## Savings in an analysis -/

/-- The suggestions that a provider answers with, none if it fails. -/
def answered : Outcome → List Suggestion
  | .ok suggestions => suggestions
  | .error _ => []

namespace Analyzer

variable (analyzer : Analyzer) (replies : Nat → Reply) (source file : String) (costs : Costs)

/-- The suggestions for a function are those kept of what the rules found and the provider answered. -/
theorem ranked_perm (f : Function) (outcome : Outcome) :
    (analyzer.ranked f outcome).Perm (Suggestion.distinct analyzer.similarityThreshold
      [Rule.findings analyzer.rules f, answered outcome]) := by
  have hmerge := (Suggestion.stableDescending_merge analyzer.similarityThreshold
    [Rule.findings analyzer.rules f, answered outcome]).perm
  cases outcome <;> exact hmerge

theorem totalPercent_ranked_le (f : Function) (outcome : Outcome) :
    totalPercent (analyzer.ranked f outcome) ≤ 194 + totalPercent (answered outcome) := by
  have hfindings := Rule.totalPercent_findings_le analyzer.rules f
  have hkept : (Suggestion.distinct analyzer.similarityThreshold
      [Rule.findings analyzer.rules f, answered outcome]).Sublist
        (Rule.findings analyzer.rules f ++ answered outcome) := by
    have hflatten : [Rule.findings analyzer.rules f, answered outcome].flatten =
        Rule.findings analyzer.rules f ++ answered outcome := by simp
    rw [Suggestion.distinct_eq_survivors, hflatten]
    exact survivorsAfter_sublist [] _
  have hsum := totalPercent_le_of_sublist hkept
  rw [totalPercent_append] at hsum
  rw [totalPercent_perm (analyzer.ranked_perm f outcome)]
  omega

theorem savings_entry (f : Function) (outcome : Outcome) :
    (analyzer.entry costs f outcome).potentialSavings =
      potentialSavings (Suggestion.distinct analyzer.similarityThreshold
        [Rule.findings analyzer.rules f, answered outcome]) (costs.ofFunction f.name) :=
  potentialSavings_perm (analyzer.ranked_perm f outcome) _

theorem totalPercent_entry (f : Function) (outcome : Outcome) :
    totalPercent (analyzer.entry costs f outcome).suggestions =
      totalPercent (Suggestion.distinct analyzer.similarityThreshold
        [Rule.findings analyzer.rules f, answered outcome]) :=
  totalPercent_perm (analyzer.ranked_perm f outcome)

/-- **Savings stay within the shares of the suggestions.** In every analysis, what a function with gas
data could save is no more of its cost than the percentages of its suggestions come to, so it is no more
than the cost if these come to one hundred at most; and a contract all of whose functions are such
could save no more than it costs. The condition is needed, since suggestions that come to more than one
hundred save more than some cost. The suggestions of a function come to 194 percent at most, together
with what the provider answered. -/
theorem savings_within_shares :
    (∀ f ∈ (analyzer.analyzeReplied replies source file costs).1.functions, f.hasGasData = true →
      100 * f.potentialSavings ≤ f.gasUsage * totalPercent f.suggestions ∧
        (totalPercent f.suggestions ≤ 100 → f.potentialSavings ≤ f.gasUsage)) ∧
    ((∀ f ∈ (analyzer.analyzeReplied replies source file costs).1.functions,
        f.hasGasData = true ∧ totalPercent f.suggestions ≤ 100) →
      (analyzer.analyzeReplied replies source file costs).1.totalPotentialSavings ≤
        (analyzer.analyzeReplied replies source file costs).1.totalGasUsage) ∧
    (∀ suggestions, totalPercent suggestions ≤ 100 ↔
      ∀ gas, 0 < gas → potentialSavings suggestions gas ≤ gas) ∧
    ∀ (i : Nat) (f : AnalyzedFunction),
      (analyzer.analyzeReplied replies source file costs).1.functions[i]? = some f →
      totalPercent f.suggestions ≤
        194 + totalPercent (answered ((replies i).within analyzer.patience)) := by
  have hcosted := analyzer.costedBy_analyzeReplied replies source file costs
  have hshares : ∀ f ∈ (analyzer.analyzeReplied replies source file costs).1.functions,
      f.hasGasData = true → 100 * f.potentialSavings ≤ f.gasUsage * totalPercent f.suggestions ∧
        (totalPercent f.suggestions ≤ 100 → f.potentialSavings ≤ f.gasUsage) := by
    intro f hf hdata
    have hpos : 0 < f.gasUsage := by
      rw [(hcosted.functions f hf).hasGasData_eq] at hdata
      exact of_decide_eq_true hdata
    rw [(hcosted.functions f hf).potentialSavings_eq]
    exact ⟨mul_potentialSavings_le _ hpos, potentialSavings_le_self hpos⟩
  refine ⟨hshares, fun hall => ?_, fun suggestions => potentialSavings_le_self_iff.symm,
    fun i f hf => ?_⟩
  · rw [hcosted.totalPotentialSavings_eq, hcosted.totalGasUsage_eq]
    exact Gas.total_le_total fun f hf => (hshares f hf (hall f hf).1).2 (hall f hf).2
  · rw [getElem?_functions_analyzeReplied] at hf
    obtain ⟨g, -, rfl⟩ := Option.map_eq_some_iff.1 hf
    exact analyzer.totalPercent_ranked_le g _

/-- A source with one function, about which the rules have nothing to say. -/
def soleView : String :=
  "contract C \x7b function f() external view \x7b\x7d \x7d"

/-- Ways to save gas, all of high impact. -/
def manyWays : List Suggestion :=
  ["Pack slots", "Cut loops", "Batch calls", "Drop logs", "Hash less", "Use calldata", "Skip checks"].map
    (Suggestion.generated · 0.5 .high)

/-- The analysis where one hundred was measured and the provider answers with the first of these ways. -/
def soleAnalysis (ways : Nat) : ContractAnalysis :=
  ((ofConfiguration .standard).analyzeReplied (fun _ => ⟨0, .ok (manyWays.take ways)⟩) soleView
    "C.sol" (.ofList [("f", 100)])).1

/-- **More can be saved than was measured**: seven suggestions of high impact save 105 of a cost of one
hundred. -/
theorem savings_exceed_cost :
    (soleAnalysis 7).functions.map (fun f => (f.hasGasData, f.gasUsage, f.potentialSavings)) =
      [(true, 100, 105)] ∧
    (soleAnalysis 7).totalGasUsage = 100 ∧ (soleAnalysis 7).totalPotentialSavings = 105 := by
  have hfunctions : (soleAnalysis 7).functions.map
      (fun f => (f.hasGasData, f.gasUsage, f.potentialSavings)) = [(true, 100, 105)] := by
    rw [soleAnalysis, functions_analyzeReplied, List.map_map]
    simp only [Function.comp_def, savings_entry]
    decide +kernel
  have hgas : (soleAnalysis 7).functions.map (·.gasUsage) = [100] := by
    simpa [Function.comp_def] using congrArg (List.map fun entry => entry.2.1) hfunctions
  have hsavings : (soleAnalysis 7).functions.map (·.potentialSavings) = [105] := by
    simpa [Function.comp_def] using congrArg (List.map fun entry => entry.2.2) hfunctions
  have hcosted : (soleAnalysis 7).CostedBy (.ofList [("f", 100)]) := by
    unfold soleAnalysis
    exact costedBy_analyzeReplied _ _ _ _ _
  refine ⟨hfunctions, ?_, ?_⟩
  · exact hcosted.totalGasUsage_eq.trans (congrArg Gas.total hgas)
  · exact hcosted.totalPotentialSavings_eq.trans (congrArg Gas.total hsavings)

/-- One suggestion of high impact comes to fifteen percent. -/
theorem savings_within_shares_of_one :
    ∃ f, (soleAnalysis 1).functions = [f] ∧ f.hasGasData = true ∧ totalPercent f.suggestions = 15 ∧
      f.potentialSavings ≤ f.gasUsage ∧
      (soleAnalysis 1).totalPotentialSavings ≤ (soleAnalysis 1).totalGasUsage ∧
      totalPercent f.suggestions ≤ 194 + totalPercent (manyWays.take 1) := by
  have hfunctions : (soleAnalysis 1).functions.map
      (fun f => (f.hasGasData, totalPercent f.suggestions)) = [(true, 15)] := by
    rw [soleAnalysis, functions_analyzeReplied, List.map_map]
    simp only [Function.comp_def, totalPercent_entry]
    decide +kernel
  obtain ⟨f, hf, hfacts⟩ := List.map_eq_singleton_iff.1 hfunctions
  obtain ⟨hdata, hpercent⟩ := Prod.mk.inj hfacts
  refine ⟨f, hf, hdata, hpercent, ?_⟩
  unfold soleAnalysis at hf ⊢
  obtain ⟨hwithin, htotal, -, hbound⟩ := (ofConfiguration .standard).savings_within_shares
    (fun _ => ⟨0, .ok (manyWays.take 1)⟩) soleView "C.sol" (.ofList [("f", 100)])
  rw [hf] at hwithin htotal hbound
  refine ⟨(hwithin f List.mem_cons_self hdata).2 (by omega), htotal ?_, ?_⟩
  · intro g hg
    rw [List.mem_singleton.1 hg]
    exact ⟨hdata, by omega⟩
  · have hfirst := hbound 0 f rfl
    rwa [Reply.within, if_pos (Nat.zero_le _)] at hfirst

end Analyzer

end GasAdvisor
