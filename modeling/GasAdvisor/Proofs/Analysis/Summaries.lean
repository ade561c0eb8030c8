import GasAdvisor.Analysis.Basic
import GasAdvisor.Proofs.Cost.Savings

/-!
# Figures over several contracts

A summary counts contracts and functions and adds up what the contracts cost and could save. The sums
are cut off at the largest amount, and nevertheless each figure is determined by the contracts alone:
it is a count or the exact sum cut off (`Summary.exact_of`), so the order of the contracts does not
matter (`Summary.of_perm`), and the figures over two rows of contracts are the figures over each put
together (`Summary.joins_of_append`). The quotients are the exception: they are told from the figures
over all contracts, and are zero where there is nothing to divide by (`Summary.ratio_zero`).

Whether anything was measured can be told from the total as well as from the contracts
(`Summary.totalGasUsage_pos_iff`). A total that is cut off, over the functions of a contract or over
contracts, is not zero.
-/

namespace GasAdvisor

/-- An analysis is the integration of a contract, whatever framework it names and whatever problems it
reports. -/
def ContractAnalysis.IsIntegrated (a : ContractAnalysis) : Prop :=
  ∃ c file ranked costs framework diagnostics,
    a = { of c file ranked costs with framework, diagnostics }

/-- An integrated analysis knows from its total whether anything was measured. -/
theorem ContractAnalysis.IsIntegrated.gasDataAvailable_iff {a : ContractAnalysis}
    (h : a.IsIntegrated) : a.gasDataAvailable = true ↔ 0 < a.totalGasUsage := by
  obtain ⟨c, file, ranked, costs, framework, diagnostics, rfl⟩ := h
  exact decide_eq_true_iff

namespace Summary

/-- The figures over contracts: counts, exact sums cut off at the largest amount, and quotients that
are zero where their divisor is. Where the contracts hold machine words, the sums are those of words. -/
structure Exact (contracts : List ContractAnalysis) (s : Summary) : Prop where
  totalContracts : s.totalContracts = contracts.length
  totalFunctions : s.totalFunctions = (contracts.map (·.functions.length)).sum
  totalGasUsage : s.totalGasUsage = min (2 ^ 64 - 1) (contracts.map (·.totalGasUsage)).sum
  totalSavings :
    s.totalPotentialSavings = min (2 ^ 64 - 1) (contracts.map (·.totalPotentialSavings)).sum
  contractsWithGasData : s.contractsWithGasData = contracts.countP (·.gasDataAvailable)
  contractsWithGasData_le : s.contractsWithGasData ≤ s.totalContracts
  gasDataCoverage : s.totalContracts = 0 → s.gasDataCoverage = 0
  averageGas : s.totalFunctions = 0 → s.averageGasPerFunction = 0
  savingsPercentage : s.totalGasUsage = 0 → s.potentialSavingsPercentage = 0
  gasInWords : ∀ words : List UInt64, contracts.map (·.totalGasUsage) = words.map UInt64.toNat →
    s.totalGasUsage = (Gas.totalOfWords words).toNat
  savingsInWords : ∀ words : List UInt64,
    contracts.map (·.totalPotentialSavings) = words.map UInt64.toNat →
      s.totalPotentialSavings = (Gas.totalOfWords words).toNat

/-- The counts of one summary are those of two others added up, and its totals the totals of the
others added up and cut off. -/
structure Joins (s t joined : Summary) : Prop where
  totalContracts : joined.totalContracts = s.totalContracts + t.totalContracts
  totalFunctions : joined.totalFunctions = s.totalFunctions + t.totalFunctions
  contractsWithGasData :
    joined.contractsWithGasData = s.contractsWithGasData + t.contractsWithGasData
  totalGasUsage : joined.totalGasUsage = Gas.plus s.totalGasUsage t.totalGasUsage
  totalSavings :
    joined.totalPotentialSavings = Gas.plus s.totalPotentialSavings t.totalPotentialSavings

/-! ## Single figures -/

/-- **A quotient is zero where there is nothing to divide by.** -/
theorem ratio_zero (num : Float) : ratio num (Float.ofNat 0) = 0 :=
  if_neg (by decide)

variable (contracts more : List ContractAnalysis)

theorem totalFunctions_eq_sum :
    (of contracts).totalFunctions = (contracts.map (·.functions.length)).sum :=
  List.length_flatMap

theorem contractsWithGasData_eq_countP :
    (of contracts).contractsWithGasData = contracts.countP (·.gasDataAvailable) :=
  List.countP_eq_length_filter.symm

/-! ## Figures over rows of contracts -/

/-- **A summary does not depend on the order of the contracts.** -/
theorem of_perm {contracts contracts' : List ContractAnalysis}
    (h : contracts.Perm contracts') : of contracts = of contracts' := by
  have hfunctions := (h.flatMap_right (·.functions)).length_eq
  have hgas := Gas.total_perm (h.map (·.totalGasUsage))
  have hsavings := Gas.total_perm (h.map (·.totalPotentialSavings))
  have hmeasured := (h.filter (·.gasDataAvailable)).length_eq
  simp only [of, h.length_eq, hfunctions, hgas, hsavings, hmeasured]

theorem exact_of : Exact contracts (of contracts) where
  totalContracts := rfl
  totalFunctions := totalFunctions_eq_sum contracts
  totalGasUsage := Gas.total_eq_min _
  totalSavings := Gas.total_eq_min _
  contractsWithGasData := contractsWithGasData_eq_countP contracts
  contractsWithGasData_le := List.length_filter_le _ contracts
  gasDataCoverage h := by
    change ratio _ (Float.ofNat (of contracts).totalContracts) = 0
    rw [h, ratio_zero]
  averageGas h := by
    change ratio _ (Float.ofNat (of contracts).totalFunctions) = 0
    rw [h, ratio_zero]
  savingsPercentage h := by
    change ratio _ (Float.ofNat (of contracts).totalGasUsage) = 0
    rw [h, ratio_zero]
  gasInWords words hwords := by
    rw [Gas.toNat_totalOfWords, ← hwords]
    rfl
  savingsInWords words hwords := by
    rw [Gas.toNat_totalOfWords, ← hwords]
    rfl

theorem joins_of_append : Joins (of contracts) (of more) (of (contracts ++ more)) where
  totalContracts := List.length_append
  totalFunctions := by
    rw [totalFunctions_eq_sum, totalFunctions_eq_sum, totalFunctions_eq_sum, List.map_append,
      List.sum_append]
  contractsWithGasData := by
    rw [contractsWithGasData_eq_countP, contractsWithGasData_eq_countP,
      contractsWithGasData_eq_countP, List.countP_append]
  totalGasUsage := by
    change Gas.total _ = _
    rw [List.map_append, Gas.total_append]
    rfl
  totalSavings := by
    change Gas.total _ = _
    rw [List.map_append, Gas.total_append]
    rfl

/-- **Something was measured exactly if one of the contracts has gas data**, even where totals are cut
off. -/
theorem totalGasUsage_pos_iff {contracts : List ContractAnalysis}
    (h : ∀ a ∈ contracts, a.IsIntegrated) :
    0 < (of contracts).totalGasUsage ↔ 0 < (of contracts).contractsWithGasData := by
  have htotal : 0 < (of contracts).totalGasUsage ↔
      ∃ gas ∈ contracts.map (·.totalGasUsage), 0 < gas := Gas.total_pos_iff
  rw [htotal, contractsWithGasData_eq_countP, List.countP_pos_iff]
  constructor
  · rintro ⟨gas, hgas, hpos⟩
    obtain ⟨a, ha, rfl⟩ := List.mem_map.1 hgas
    exact ⟨a, ha, (h a ha).gasDataAvailable_iff.2 hpos⟩
  · rintro ⟨a, ha, hdata⟩
    exact ⟨a.totalGasUsage, List.mem_map_of_mem ha, (h a ha).gasDataAvailable_iff.1 hdata⟩

/-- **Summaries do not depend on the order of the contracts, and are exact.** The figures over any
contracts are the same in any order. Each is the number of contracts or functions, or an exact sum cut
off at the largest amount, and no more contracts have gas data than there are; a quotient is zero where
its divisor is. If the analyses are those of integrated contracts, something was measured exactly if
one of them has gas data. The counts and totals over two rows of contracts are those over each row added
up, the totals cut off again. -/
theorem of_exact_and_additive :
    (∀ contracts contracts' : List ContractAnalysis, contracts.Perm contracts' →
      of contracts = of contracts') ∧
    (∀ contracts : List ContractAnalysis, Exact contracts (of contracts)) ∧
    (∀ contracts : List ContractAnalysis, (∀ a ∈ contracts, a.IsIntegrated) →
      (0 < (of contracts).totalGasUsage ↔ 0 < (of contracts).contractsWithGasData)) ∧
    ∀ contracts more : List ContractAnalysis,
      Joins (of contracts) (of more) (of (contracts ++ more)) :=
  ⟨fun _ _ => of_perm, exact_of, fun _ => totalGasUsage_pos_iff, joins_of_append⟩

/-- A contract with one function. -/
def oneFunction : Contract where
  name := "C"
  functions :=
    [⟨"f", .public, .nonpayable, [], none, [], [], "function f() public \x7b\x7d", 1, 1⟩]
  stateVariables := []
  totalLines := 1

/-- Its analysis where half of the largest amount was measured. -/
def costlyAnalysis : ContractAnalysis :=
  { ContractAnalysis.of oneFunction "C.sol" [] ⟨[("f", 2 ^ 63)]⟩ with
    framework := some .foundry
    diagnostics := [] }

/-- The analysis of a text without a contract. -/
def emptyAnalysis : ContractAnalysis :=
  { ContractAnalysis.of (.invalid 1) "E.sol" [] .empty with
    framework := none
    diagnostics := [⟨"parser", "No contract"⟩] }

/-- Contracts whose costs are cut off at the largest amount, and one of which nothing was measured. -/
theorem of_exact_and_additive_costly :
    [costlyAnalysis, emptyAnalysis, costlyAnalysis].Perm
      [emptyAnalysis, costlyAnalysis, costlyAnalysis] ∧
    of [costlyAnalysis, emptyAnalysis, costlyAnalysis] =
      of [emptyAnalysis, costlyAnalysis, costlyAnalysis] ∧
    (of [costlyAnalysis, emptyAnalysis, costlyAnalysis]).totalGasUsage = 2 ^ 64 - 1 ∧
    (∀ a ∈ [costlyAnalysis, emptyAnalysis, costlyAnalysis], a.IsIntegrated) ∧
    (0 < (of [costlyAnalysis, emptyAnalysis, costlyAnalysis]).totalGasUsage ↔
      0 < (of [costlyAnalysis, emptyAnalysis, costlyAnalysis]).contractsWithGasData) ∧
    (of []).totalContracts = 0 ∧ (of []).gasDataCoverage = 0 ∧
    Joins (of [costlyAnalysis]) (of [emptyAnalysis]) (of [costlyAnalysis, emptyAnalysis]) := by
  have hperm : [costlyAnalysis, emptyAnalysis, costlyAnalysis].Perm
      [emptyAnalysis, costlyAnalysis, costlyAnalysis] := List.Perm.swap _ _ _
  have hintegrated : ∀ a ∈ [costlyAnalysis, emptyAnalysis, costlyAnalysis], a.IsIntegrated := by
    have hcostly : costlyAnalysis.IsIntegrated := ⟨oneFunction, "C.sol", [], _, _, _, rfl⟩
    have hempty : emptyAnalysis.IsIntegrated := ⟨.invalid 1, "E.sol", [], _, _, _, rfl⟩
    simp [hcostly, hempty]
  have hgas : [costlyAnalysis, emptyAnalysis, costlyAnalysis].map (·.totalGasUsage) =
      [2 ^ 63, 0, 2 ^ 63] := by decide
  obtain ⟨horder, hexact, hmeasured, hjoins⟩ := of_exact_and_additive
  refine ⟨hperm, horder _ _ hperm, ?_, hintegrated, hmeasured _ hintegrated, rfl,
    (hexact []).gasDataCoverage rfl, hjoins [costlyAnalysis] [emptyAnalysis]⟩
  rw [(hexact _).totalGasUsage, hgas]
  decide

end Summary

end GasAdvisor
