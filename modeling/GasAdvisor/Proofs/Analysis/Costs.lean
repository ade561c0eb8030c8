import GasAdvisor.Proofs.Analysis.Outcomes

/-!
# What costs change in an analysis

Costs are attached last, when functions are read and suggestions are ranked. So two analyses of a source
text that differ in their costs alone agree on everything else (`ContractAnalysis.AgreesButCosts`), and
the costs of a function are told from the cost under the lower case of its name
(`AnalyzedFunction.CostedBy`). In particular another cost under one name is seen in the functions of that
name alone, and in the totals (`Analyzer.costs_change_costs_alone`).
-/

namespace GasAdvisor

namespace AnalyzedFunction

/-- The entries say the same of one function and its suggestions. -/
structure AgreesButCosts (f g : AnalyzedFunction) : Prop where
  function_eq : f.function = g.function
  suggestions_eq : f.suggestions = g.suggestions

/-- What an entry says of costs is told from the cost under the lower case of the name and, for the
savings, from the suggestions. -/
structure CostedBy (f : AnalyzedFunction) (costs : Costs) : Prop where
  gasUsage_eq : f.gasUsage = (costs.get? (lowerName f.function.name)).getD 0
  gasRank_eq : f.gasRank = GasRank.ofGas f.gasUsage
  hasGasData_eq : f.hasGasData = decide (0 < f.gasUsage)
  potentialSavings_eq : f.potentialSavings = GasAdvisor.potentialSavings f.suggestions f.gasUsage

end AnalyzedFunction

namespace ContractAnalysis

/-- The analyses say the same of one contract but for costs. -/
structure AgreesButCosts (a b : ContractAnalysis) : Prop where
  name_eq : a.name = b.name
  file_eq : a.file = b.file
  functions : List.Forall₂ AnalyzedFunction.AgreesButCosts a.functions b.functions
  stateVariables_eq : a.stateVariables = b.stateVariables
  totalLines_eq : a.totalLines = b.totalLines
  framework_eq : a.framework = b.framework
  diagnostics_eq : a.diagnostics = b.diagnostics

/-- What an analysis says of costs is told from the costs of its functions. -/
structure CostedBy (a : ContractAnalysis) (costs : Costs) : Prop where
  functions : ∀ f ∈ a.functions, f.CostedBy costs
  totalGasUsage_eq : a.totalGasUsage = Gas.total (a.functions.map (·.gasUsage))
  totalPotentialSavings_eq :
    a.totalPotentialSavings = Gas.total (a.functions.map (·.potentialSavings))
  gasDataAvailable_eq : a.gasDataAvailable = decide (0 < a.totalGasUsage)

end ContractAnalysis

namespace Analyzer

variable (analyzer : Analyzer) (replies : Nat → Reply) (source file : String)
  (costs other : Costs)

theorem costedBy_entry (f : Function) (outcome : Outcome) :
    (analyzer.entry costs f outcome).CostedBy costs :=
  ⟨rfl, rfl, rfl, rfl⟩

theorem entry_congr {f : Function}
    (h : costs.get? (lowerName f.name) = other.get? (lowerName f.name)) (outcome : Outcome) :
    analyzer.entry costs f outcome = analyzer.entry other f outcome := by
  have hcost : costs.ofFunction f.name = other.ofFunction f.name := by
    rw [Costs.ofFunction, Costs.ofFunction, h]
  rw [entry, entry, hcost]

theorem agreesButCosts_analyzeReplied :
    (analyzer.analyzeReplied replies source file costs).1.AgreesButCosts
      (analyzer.analyzeReplied replies source file other).1 where
  functions := by
    rw [functions_analyzeReplied, functions_analyzeReplied, List.forall₂_map_left_iff,
      List.forall₂_map_right_iff, List.forall₂_same]
    exact fun p _ => ⟨rfl, rfl⟩
  name_eq := by rw [analyzeReplied_eq, analyzeReplied_eq]; rfl
  file_eq := by rw [analyzeReplied_eq, analyzeReplied_eq]; rfl
  stateVariables_eq := by rw [analyzeReplied_eq, analyzeReplied_eq]; rfl
  totalLines_eq := by rw [analyzeReplied_eq, analyzeReplied_eq]; rfl
  framework_eq := by rw [analyzeReplied_eq, analyzeReplied_eq]; rfl
  diagnostics_eq := by rw [diagnostics_analyzeReplied, diagnostics_analyzeReplied]

theorem costedBy_analyzeReplied :
    (analyzer.analyzeReplied replies source file costs).1.CostedBy costs where
  functions f hf := by
    rw [functions_analyzeReplied] at hf
    obtain ⟨p, -, rfl⟩ := List.mem_map.1 hf
    exact analyzer.costedBy_entry costs p.1 _
  totalGasUsage_eq := by rw [analyzeReplied_eq]; rfl
  totalPotentialSavings_eq := by rw [analyzeReplied_eq]; rfl
  gasDataAvailable_eq := by rw [analyzeReplied_eq]; rfl

/-- **Costs change costs alone.** With other costs an analysis says the same of everything else: of the
contract, of each function and its suggestions, and of what failed. The costs of a function are told from
the cost under the lower case of its name, and the totals from those of the functions. So where the costs
differ under one name only, the entries of functions of other names are the same. -/
theorem costs_change_costs_alone :
    (analyzer.analyzeReplied replies source file costs).1.AgreesButCosts
        (analyzer.analyzeReplied replies source file other).1 ∧
      (analyzer.analyzeReplied replies source file costs).1.CostedBy costs ∧
      ∀ key, (∀ name, name ≠ key → costs.get? name = other.get? name) →
        ∀ (i : Nat) (f : AnalyzedFunction),
          (analyzer.analyzeReplied replies source file costs).1.functions[i]? = some f →
          lowerName f.function.name ≠ key →
          (analyzer.analyzeReplied replies source file other).1.functions[i]? = some f := by
  refine ⟨analyzer.agreesButCosts_analyzeReplied replies source file costs other,
    analyzer.costedBy_analyzeReplied replies source file costs, fun key hkey i f hf hname => ?_⟩
  rw [getElem?_functions_analyzeReplied] at hf ⊢
  obtain ⟨g, hg, rfl⟩ := Option.map_eq_some_iff.1 hf
  have hcost : costs.get? (lowerName g.name) = other.get? (lowerName g.name) := hkey _ hname
  rw [hg, Option.map_some, analyzer.entry_congr costs other hcost]

end Analyzer

end GasAdvisor
