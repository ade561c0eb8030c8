import GasAdvisor.Analysis.Basic
import GasAdvisor.Proofs.Cost.Savings

/-!
# Attaching costs and suggestions to a contract

Functions are paired with lists of suggestions by position and with costs by name
(`attach_eq_mapIdx`), however many lists there are. So an analysis is told function by function, and
what it says of the whole contract are exact sums of what it says of the functions, cut off at the
largest amount (`ContractAnalysis.integrates_of`); where costs are machine words, so are these sums.
Whether anything was measured is told from a total that may be cut off; that loses nothing, since a
total is zero only if all of its amounts are.
-/

namespace GasAdvisor

/-- **Functions are paired with suggestions by position**, and those that are left over have none. -/
theorem attach_eq_mapIdx (costs : Costs) (fs : List Function) (ranked : List (List Suggestion)) :
    attach costs fs ranked =
      fs.mapIdx fun i f => .of f (costs.ofFunction f.name) (ranked[i]?.getD []) := by
  induction fs generalizing ranked with
  | nil => rfl
  | cons f fs ih =>
    rw [attach, ih, List.mapIdx_cons, List.head?_eq_getElem?]
    simp only [List.getElem?_tail]

theorem map_function_attach (costs : Costs) (fs : List Function) (ranked : List (List Suggestion)) :
    (attach costs fs ranked).map (·.function) = fs := by
  induction fs generalizing ranked with
  | nil => rfl
  | cons f fs ih =>
    rw [attach, List.map_cons, ih]
    rfl

/-- Each entry is told from the function, the cost of its name and the suggestions at its place. -/
theorem getElem?_attach (costs : Costs) (fs : List Function) (ranked : List (List Suggestion))
    (i : Nat) :
    (attach costs fs ranked)[i]? =
      fs[i]?.map fun f => .of f (costs.ofFunction f.name) (ranked[i]?.getD []) := by
  rw [attach_eq_mapIdx, List.getElem?_mapIdx]

/-- An entry of a function is one for some cost and some suggestions. -/
theorem exists_of_mem_attach {costs : Costs} {fs : List Function}
    {ranked : List (List Suggestion)} {entry : AnalyzedFunction}
    (h : entry ∈ attach costs fs ranked) :
    ∃ f suggestions, entry = .of f (costs.ofFunction f.name) suggestions := by
  obtain ⟨i, hi⟩ := List.getElem?_of_mem h
  rw [getElem?_attach] at hi
  obtain ⟨f, -, hf⟩ := Option.map_eq_some_iff.1 hi
  exact ⟨f, _, hf.symm⟩

/-- A rank is known exactly if something was measured. -/
theorem GasRank.ofGas_ne_unknown_iff {gas : Nat} : ofGas gas ≠ .unknown ↔ 0 < gas := by
  unfold ofGas
  split
  · next hzero => simp [hzero]
  · next hpos =>
    have hpos : 0 < gas := by omega
    split
    · simp [hpos]
    · split <;> simp [hpos]

/-- An analysis integrates a contract with costs and ranked lists of suggestions: it says of the
contract what the contract says, has the functions of the contract in their order, each with the
suggestions at its place and the cost of its name in lower case, and adds up exactly what it says of
the functions. -/
structure ContractAnalysis.Integrates (c : Contract) (file : String)
    (ranked : List (List Suggestion)) (costs : Costs) (a : ContractAnalysis) : Prop where
  name : a.name = c.name
  file : a.file = file
  stateVariables : a.stateVariables = c.stateVariables
  totalLines : a.totalLines = c.totalLines
  functions : a.functions.map (·.function) = c.functions
  /-- By position, and none where the lists are at an end. -/
  suggestions : ∀ (i : Nat) (f : AnalyzedFunction), a.functions[i]? = some f →
    f.suggestions = ranked[i]?.getD []
  gasUsage : ∀ f ∈ a.functions, f.gasUsage = (costs.get? (lowerName f.function.name)).getD 0
  hasGasData : ∀ f ∈ a.functions, f.hasGasData = true ↔ 0 < f.gasUsage
  gasRank : ∀ f ∈ a.functions, 0 < f.gasUsage ↔ f.gasRank ≠ .unknown
  savings : ∀ f ∈ a.functions, f.potentialSavings = potentialSavings f.suggestions f.gasUsage
  totalGasUsage : a.totalGasUsage = min (2 ^ 64 - 1) (a.functions.map (·.gasUsage)).sum
  totalSavings :
    a.totalPotentialSavings = min (2 ^ 64 - 1) (a.functions.map (·.potentialSavings)).sum
  gasInWords : ∀ words : List UInt64, a.functions.map (·.gasUsage) = words.map UInt64.toNat →
    a.totalGasUsage = (Gas.totalOfWords words).toNat
  savingsInWords : ∀ words : List UInt64,
    a.functions.map (·.potentialSavings) = words.map UInt64.toNat →
      a.totalPotentialSavings = (Gas.totalOfWords words).toNat
  /-- Also where the total is cut off. -/
  gasDataAvailable : a.gasDataAvailable = true ↔ ∃ f ∈ a.functions, f.hasGasData = true

namespace ContractAnalysis

variable (c : Contract) (file : String) (ranked : List (List Suggestion)) (costs : Costs)

theorem hasGasData_iff {f : AnalyzedFunction} (h : f ∈ (of c file ranked costs).functions) :
    f.hasGasData = true ↔ 0 < f.gasUsage := by
  obtain ⟨g, suggestions, rfl⟩ := exists_of_mem_attach h
  exact decide_eq_true_iff

/-- **Something was measured exactly if something was measured of one of the functions**, even where
the total is cut off. -/
theorem gasDataAvailable_iff :
    (of c file ranked costs).gasDataAvailable = true ↔
      ∃ f ∈ (of c file ranked costs).functions, f.hasGasData = true := by
  have htotal : (of c file ranked costs).gasDataAvailable = true ↔
      0 < Gas.total ((of c file ranked costs).functions.map (·.gasUsage)) := decide_eq_true_iff
  rw [htotal, Gas.total_pos_iff]
  constructor
  · rintro ⟨gas, hgas, hpos⟩
    obtain ⟨f, hf, rfl⟩ := List.mem_map.1 hgas
    exact ⟨f, hf, (hasGasData_iff c file ranked costs hf).2 hpos⟩
  · rintro ⟨f, hf, hdata⟩
    exact ⟨f.gasUsage, List.mem_map_of_mem hf, (hasGasData_iff c file ranked costs hf).1 hdata⟩

/-- **Integration is exact and consistent**, for any contract, any costs and any number of ranked
lists. -/
theorem integrates_of : Integrates c file ranked costs (of c file ranked costs) where
  name := rfl
  file := rfl
  stateVariables := rfl
  totalLines := rfl
  functions := map_function_attach costs c.functions ranked
  suggestions := by
    intro i f hf
    change (attach costs c.functions ranked)[i]? = some f at hf
    rw [getElem?_attach] at hf
    obtain ⟨g, -, rfl⟩ := Option.map_eq_some_iff.1 hf
    rfl
  gasUsage := by
    intro f hf
    obtain ⟨g, suggestions, rfl⟩ := exists_of_mem_attach hf
    rfl
  hasGasData := fun f hf => hasGasData_iff c file ranked costs hf
  gasRank := by
    intro f hf
    obtain ⟨g, suggestions, rfl⟩ := exists_of_mem_attach hf
    exact GasRank.ofGas_ne_unknown_iff.symm
  savings := by
    intro f hf
    obtain ⟨g, suggestions, rfl⟩ := exists_of_mem_attach hf
    rfl
  totalGasUsage := Gas.total_eq_min _
  totalSavings := Gas.total_eq_min _
  gasInWords := by
    intro words hwords
    rw [Gas.toNat_totalOfWords, ← hwords]
    rfl
  savingsInWords := by
    intro words hwords
    rw [Gas.toNat_totalOfWords, ← hwords]
    rfl
  gasDataAvailable := gasDataAvailable_iff c file ranked costs

end ContractAnalysis

end GasAdvisor
