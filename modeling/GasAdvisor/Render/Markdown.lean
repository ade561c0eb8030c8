import GasAdvisor.Render.Terminal

/-!
# Batches in Markdown

A report on a batch: its figures, a section for each contract with a table of its functions and the
first suggestion for each, and the files that failed.
-/

namespace GasAdvisor.Markdown

open Terminal

/-- A row of a table. -/
def row (cells : List String) : String :=
  "|" ++ String.join (cells.map fun cell => " " ++ cell ++ " |")

/-- The lines on the figures of a batch. -/
def summaryLines (batch : Batch) : List String :=
  ["# Gas Guardian Analysis Report", "", "## Summary",
   "- **Framework**: " ++ frameworkLabel batch.framework,
   "- **Generated**: " ++ batch.timestamp,
   "- **Contracts**: " ++ number batch.summary.totalContracts,
   "- **Functions**: " ++ number batch.summary.totalFunctions,
   "- **Total Gas Usage**: " ++ grouped batch.summary.totalGasUsage,
   "- **Potential Savings**: " ++ grouped batch.summary.totalPotentialSavings ++ " gas (" ++
      number batch.summary.potentialSavingsPercentage ++ "%)",
   ""]

/-- The row on a function. -/
def functionRow (f : AnalyzedFunction) : String :=
  row
    [f.function.name, gasCell f, f.gasRank.keyword, number f.suggestions.length,
     grouped f.potentialSavings]

/-- The line on the first suggestion for a function, if there is one. -/
def topSuggestion (f : AnalyzedFunction) : Option String :=
  f.suggestions.head?.map fun s =>
    "- `" ++ f.function.name ++ "` (" ++ s.impact.keyword ++ " impact): " ++ s.message

/-- The lines on the functions of a contract. -/
def functionLines (functions : List AnalyzedFunction) : List String :=
  let top := functions.filterMap topSuggestion
  ["### Functions", "",
   row ["Function", "Gas Usage", "Rank", "Suggestions", "Potential Savings"],
   "|----------|-----------|------|-------------|-------------------|"] ++
  functions.map functionRow ++ [""] ++
  if top.isEmpty then [] else ["### Top Suggestions", ""] ++ top ++ [""]

/-- The lines on a contract. -/
def contractLines (contract : ContractAnalysis) : List String :=
  ["## Contract: " ++ contract.name, "",
   "- **File**: " ++ contract.file,
   "- **Functions**: " ++ number contract.functions.length,
   "- **Lines**: " ++ number contract.totalLines,
   "- **Gas Data Available**: " ++ (if contract.gasDataAvailable then "Yes" else "No"),
   ""] ++
  if contract.functions.isEmpty then [] else functionLines contract.functions

/-- The lines on the files that failed. -/
def failureLines (failures : List Failure) : List String :=
  if failures.isEmpty then []
  else
    ["## Failed Files", ""] ++ failures.map (fun f => "- " ++ f.file ++ ": " ++ f.error) ++ [""]

/-- The report on a batch. -/
def report (batch : Batch) : String :=
  String.join
    ((summaryLines batch ++ batch.contracts.flatMap contractLines ++
      failureLines batch.failures).map (· ++ "\n"))

end GasAdvisor.Markdown
