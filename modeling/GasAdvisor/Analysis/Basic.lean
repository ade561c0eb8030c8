import GasAdvisor.Contract.Basic
import GasAdvisor.Cost.Basic

/-!
# Analyses

A contract together with the measured costs and the ranked suggestions of its functions, and the
outcome of analysing several files. `ContractAnalysis.of` attaches costs and suggestions to a
contract and changes nothing in it; `Summary.of` adds up contracts.
-/

namespace GasAdvisor

/-- A test framework that measures gas. -/
inductive Framework where
  | foundry
  | hardhat
  deriving DecidableEq, Repr

namespace Framework

/-- Costs come from Foundry unless told otherwise. -/
instance : Inhabited Framework := ⟨.foundry⟩

/-- All frameworks. -/
def all : List Framework := [.foundry, .hardhat]

/-- The name of a framework. -/
def keyword : Framework → String
  | .foundry => "foundry"
  | .hardhat => "hardhat"

end Framework

/-- A function with its cost and its ranked suggestions. -/
structure AnalyzedFunction where
  function : Function
  /-- The measured gas, zero if unknown. -/
  gasUsage : Nat
  gasRank : GasRank
  hasGasData : Bool
  suggestions : List Suggestion
  /-- What following all suggestions saves. -/
  potentialSavings : Nat
  deriving DecidableEq

/-- A problem met on the way that did not stop the analysis. -/
structure Diagnostic where
  /-- The part of the analysis that met it. -/
  origin : String
  message : String
  deriving DecidableEq, Repr

/-- The analysis of one source file. -/
structure ContractAnalysis where
  name : String
  /-- The path of the file, as it was given. -/
  file : String
  functions : List AnalyzedFunction
  stateVariables : List String
  totalLines : Nat
  totalGasUsage : Nat
  totalPotentialSavings : Nat
  gasDataAvailable : Bool
  framework : Option Framework
  diagnostics : List Diagnostic
  deriving DecidableEq

/-- A file that could not be analysed. -/
structure Failure where
  file : String
  error : String
  deriving DecidableEq, Repr

/-- Figures over several contracts. -/
structure Summary where
  totalContracts : Nat
  totalFunctions : Nat
  totalGasUsage : Nat
  totalPotentialSavings : Nat
  contractsWithGasData : Nat
  /-- The share of contracts with gas data, in percent. -/
  gasDataCoverage : Nat
  averageGasPerFunction : Nat
  /-- The share of the total gas that could be saved, in percent. -/
  potentialSavingsPercentage : Nat
  deriving DecidableEq, Repr

/-- The analysis of several files. -/
structure Batch where
  contracts : List ContractAnalysis
  failures : List Failure
  summary : Summary
  framework : Option Framework
  /-- When the batch was finished. -/
  timestamp : String
  deriving DecidableEq

namespace AnalyzedFunction

/-- A function with a cost and suggestions. -/
def of (f : Function) (gas : Nat) (suggestions : List Suggestion) : AnalyzedFunction where
  function := f
  gasUsage := gas
  gasRank := GasRank.ofGas gas
  hasGasData := 0 < gas
  suggestions := suggestions
  potentialSavings := GasAdvisor.potentialSavings suggestions gas

end AnalyzedFunction

/-- Functions with their costs and their suggestions; the functions beyond the end of the list of
suggestions have none. -/
def attach (costs : Costs) : List Function → List (List Suggestion) → List AnalyzedFunction
  | [], _ => []
  | f :: fs, ranked =>
    .of f (costs.ofFunction f.name) (ranked.head?.getD []) :: attach costs fs ranked.tail

namespace ContractAnalysis

/-- A contract with costs and suggestions attached to its functions. -/
def of (c : Contract) (file : String) (ranked : List (List Suggestion)) (costs : Costs) :
    ContractAnalysis :=
  let functions := attach costs c.functions ranked
  let totalGasUsage := Gas.total (functions.map (·.gasUsage))
  { name := c.name
    file
    functions
    stateVariables := c.stateVariables
    totalLines := c.totalLines
    totalGasUsage
    totalPotentialSavings := Gas.total (functions.map (·.potentialSavings))
    gasDataAvailable := 0 < totalGasUsage
    framework := none
    diagnostics := [] }

/-- The number of functions with a measured cost. -/
def functionsWithGasData (a : ContractAnalysis) : Nat :=
  (a.functions.filter (·.hasGasData)).length

end ContractAnalysis

namespace Summary

/-- A quotient of floating-point numbers, rounded to the nearest natural number; zero where the
divisor is zero. -/
def ratio (num den : Float) : Nat :=
  if 0 < den then Decimal.roundToNat Gas.limit (num / den) else 0

/-- The figures over contracts. -/
def of (contracts : List ContractAnalysis) : Summary :=
  let totalContracts := contracts.length
  let totalFunctions := (contracts.flatMap (·.functions)).length
  let totalGasUsage := Gas.total (contracts.map (·.totalGasUsage))
  let totalPotentialSavings := Gas.total (contracts.map (·.totalPotentialSavings))
  let contractsWithGasData := (contracts.filter (·.gasDataAvailable)).length
  { totalContracts
    totalFunctions
    totalGasUsage
    totalPotentialSavings
    contractsWithGasData
    gasDataCoverage :=
      ratio (Float.ofNat contractsWithGasData * 100) (Float.ofNat totalContracts)
    averageGasPerFunction := ratio (Float.ofNat totalGasUsage) (Float.ofNat totalFunctions)
    potentialSavingsPercentage :=
      ratio (Float.ofNat totalPotentialSavings * 100) (Float.ofNat totalGasUsage) }

end Summary

end GasAdvisor
