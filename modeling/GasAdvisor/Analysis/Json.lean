import GasAdvisor.Analysis.Basic
import GasAdvisor.Contract.Json
import GasAdvisor.Suggestion.Json

/-!
# Analyses in JSON

The views of analyses and batches and their decoders. An analysed function lists the fields of its
function among its own, so it is read from an object only.
-/

namespace GasAdvisor

namespace GasRank

def toJson (r : GasRank) : Json := .string r.keyword

def ofJson? : Json → Option GasRank := Json.oneOf? Json.isNull all keyword

end GasRank

namespace Framework

def toJson (f : Framework) : Json := .string f.keyword

def ofJson? : Json → Option Framework := Json.oneOf? Json.isNull all keyword

end Framework

namespace Costs

def toJson (c : Costs) : Json :=
  .object (c.entries.map fun (name, gas) => (name, .ofNat gas))

def ofJson? : Json → Option Costs
  | .object members =>
    (members.mapM fun member => (Json.nat64? member.2).map (member.1, ·)).map ofList
  | _ => none

end Costs

namespace AnalyzedFunction

/-- The names of the fields beside those of the function. -/
def fieldNames : List String :=
  ["gas_usage", "gas_rank", "has_gas_data", "suggestions", "potential_savings"]

/-- The members of the view beside those of the function. -/
def toMembers (f : AnalyzedFunction) : List (String × Json) :=
  [("gas_usage", .ofNat f.gasUsage), ("gas_rank", f.gasRank.toJson),
   ("has_gas_data", .bool f.hasGasData),
   ("suggestions", .ofList Suggestion.toJson f.suggestions),
   ("potential_savings", .ofNat f.potentialSavings)]

def toJson (f : AnalyzedFunction) : Json :=
  .object (f.function.toMembers ++ f.toMembers)

def ofJson? (json : Json) : Option AnalyzedFunction := do
  let function ← Function.ofFields? Json.isVoid (← json.objectFields Function.fieldNames)
  match ← json.objectFields fieldNames with
  | [gasUsage, gasRank, hasGasData, suggestions, potentialSavings] =>
    return {
      function
      gasUsage := ← gasUsage.required Json.nat64?
      gasRank := ← gasRank.required GasRank.ofJson?
      hasGasData := ← hasGasData.required Json.bool?
      suggestions := ← suggestions.required (Json.list? Suggestion.ofJson?)
      potentialSavings := ← potentialSavings.required Json.nat64? }
  | _ => none

end AnalyzedFunction

namespace Diagnostic

def toJson (d : Diagnostic) : Json :=
  .object [("origin", .string d.origin), ("message", .string d.message)]

def ofJson? (json : Json) : Option Diagnostic := do
  match ← json.fields ["origin", "message"] with
  | [origin, message] => return ⟨← origin.required Json.string?, ← message.required Json.string?⟩
  | _ => none

end Diagnostic

namespace ContractAnalysis

def toJson (a : ContractAnalysis) : Json :=
  .object
    [("name", .string a.name), ("file", .string a.file),
     ("functions", .ofList AnalyzedFunction.toJson a.functions),
     ("state_variables", .ofList .string a.stateVariables), ("total_lines", .ofNat a.totalLines),
     ("total_gas_usage", .ofNat a.totalGasUsage),
     ("total_potential_savings", .ofNat a.totalPotentialSavings),
     ("gas_data_available", .bool a.gasDataAvailable),
     ("framework", .ofOption Framework.toJson a.framework),
     ("diagnostics", .ofList Diagnostic.toJson a.diagnostics)]

def ofJson? (json : Json) : Option ContractAnalysis := do
  match ← json.fields
      ["name", "file", "functions", "state_variables", "total_lines", "total_gas_usage",
       "total_potential_savings", "gas_data_available", "framework", "diagnostics"] with
  | [name, file, functions, stateVariables, totalLines, totalGasUsage, totalPotentialSavings,
      gasDataAvailable, framework, diagnostics] =>
    return {
      name := ← name.required Json.string?
      file := ← file.required Json.string?
      functions := ← functions.required (Json.list? AnalyzedFunction.ofJson?)
      stateVariables := ← stateVariables.required (Json.list? Json.string?)
      totalLines := ← totalLines.required Json.nat64?
      totalGasUsage := ← totalGasUsage.required Json.nat64?
      totalPotentialSavings := ← totalPotentialSavings.required Json.nat64?
      gasDataAvailable := ← gasDataAvailable.required Json.bool?
      framework := ← framework.optional Framework.ofJson?
      diagnostics := ← diagnostics.orDefault [] (Json.list? Diagnostic.ofJson?) }
  | _ => none

end ContractAnalysis

namespace Failure

def toJson (f : Failure) : Json :=
  .object [("file", .string f.file), ("error", .string f.error)]

def ofJson? (json : Json) : Option Failure := do
  match ← json.fields ["file", "error"] with
  | [file, error] => return ⟨← file.required Json.string?, ← error.required Json.string?⟩
  | _ => none

end Failure

namespace Summary

def toJson (s : Summary) : Json :=
  .object
    [("total_contracts", .ofNat s.totalContracts), ("total_functions", .ofNat s.totalFunctions),
     ("total_gas_usage", .ofNat s.totalGasUsage),
     ("total_potential_savings", .ofNat s.totalPotentialSavings),
     ("contracts_with_gas_data", .ofNat s.contractsWithGasData),
     ("gas_data_coverage", .ofNat s.gasDataCoverage),
     ("average_gas_per_function", .ofNat s.averageGasPerFunction),
     ("potential_savings_percentage", .ofNat s.potentialSavingsPercentage)]

def ofJson? (json : Json) : Option Summary := do
  match ← json.fields
      ["total_contracts", "total_functions", "total_gas_usage", "total_potential_savings",
       "contracts_with_gas_data", "gas_data_coverage", "average_gas_per_function",
       "potential_savings_percentage"] with
  | [contracts, functions, gas, savings, withData, coverage, average, percentage] =>
    return {
      totalContracts := ← contracts.required Json.nat64?
      totalFunctions := ← functions.required Json.nat64?
      totalGasUsage := ← gas.required Json.nat64?
      totalPotentialSavings := ← savings.required Json.nat64?
      contractsWithGasData := ← withData.required Json.nat64?
      gasDataCoverage := ← coverage.required Json.nat64?
      averageGasPerFunction := ← average.required Json.nat64?
      potentialSavingsPercentage := ← percentage.required Json.nat64? }
  | _ => none

end Summary

namespace Batch

def toJson (b : Batch) : Json :=
  .object
    [("contracts", .ofList ContractAnalysis.toJson b.contracts),
     ("failures", .ofList Failure.toJson b.failures), ("summary", b.summary.toJson),
     ("framework", .ofOption Framework.toJson b.framework), ("timestamp", .string b.timestamp)]

def ofJson? (json : Json) : Option Batch := do
  match ← json.fields ["contracts", "failures", "summary", "framework", "timestamp"] with
  | [contracts, failures, summary, framework, timestamp] =>
    return {
      contracts := ← contracts.required (Json.list? ContractAnalysis.ofJson?)
      failures := ← failures.required (Json.list? Failure.ofJson?)
      summary := ← summary.required Summary.ofJson?
      framework := ← framework.optional Framework.ofJson?
      timestamp := ← timestamp.required Json.string? }
  | _ => none

end Batch

end GasAdvisor
