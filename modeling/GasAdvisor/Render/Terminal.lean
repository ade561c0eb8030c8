import GasAdvisor.Analysis.Basic
import GasAdvisor.Decimal.Text
import GasAdvisor.Render.Style
import GasAdvisor.Text.Lines

/-!
# Batches on the terminal

A batch as a document: as a list or a table of functions (`analysisDocument`), as a listing of
suggestions (`suggestionsDocument`), and its diagnostics (`diagnosticsDocument`).
-/

namespace GasAdvisor.Terminal

open Text

/-- The layouts of the functions of a contract. -/
inductive Layout where
  | list
  | table
  deriving DecidableEq, Repr

/-- A natural number. -/
def number (n : Nat) : String :=
  String.ofList (Decimal.digits n)

/-- A natural number with its digits in groups. -/
def grouped (n : Nat) : String :=
  String.ofList (Decimal.grouped n)

/-- The name of a framework, or that there is none. -/
def frameworkLabel (framework : Option Framework) : String :=
  match framework with
  | none => "none"
  | some f => f.keyword

/-- A line of one style. -/
def styledLine (style : Style) (text : String) : Line :=
  [.styled style text]

/-- A line without style. -/
def bareLine (text : String) : Line :=
  [.bare text]

/-- A blank line. -/
def blankLine : Line := []

/-! ## Analyses -/

/-- The lines on the figures of a batch. -/
def summaryLines (summary : Summary) (framework : Option Framework) : Document :=
  [blankLine,
   styledLine .boldCyan "📊 Analysis Summary",
   styledLine .dimmed ("Framework: " ++ frameworkLabel framework),
   styledLine .dimmed
    ("Contracts: " ++ number summary.totalContracts ++ " | Functions: " ++
      number summary.totalFunctions)] ++
  if 0 < summary.totalGasUsage then
    [styledLine .green ("✅ Total Gas Usage: " ++ grouped summary.totalGasUsage),
     styledLine .yellow
      ("💰 Potential Savings: " ++ grouped summary.totalPotentialSavings ++ " gas (" ++
        number summary.potentialSavingsPercentage ++ "%)"),
     styledLine .blue ("📈 Gas Data Coverage: " ++ number summary.gasDataCoverage ++ "%")]
  else
    [styledLine .yellow
      ("⚠️  No gas data available - run tests with " ++ frameworkLabel framework ++ " first")]

/-- The lines on a function in a list. -/
def functionLines (f : AnalyzedFunction) : Document :=
  let gas := if 0 < f.gasUsage then grouped f.gasUsage ++ " gas (" ++ f.gasRank.keyword ++ ")"
    else "No gas data"
  let savings := if 0 < f.potentialSavings then " | Savings: " ++ grouped f.potentialSavings
    else ""
  [.bare "  📝 ", .styled .boldWhite f.function.name, .bare (" | " ++ gas ++ savings)] ::
  if f.suggestions.isEmpty then []
  else
    [styledLine .dimmed
      ("     Suggestions: " ++ number f.suggestions.length ++ " optimization(s) available")]

/-- What separates the columns of a table. -/
def columnRule (look : Look) : String :=
  if look = .plain then "|" else "│"

/-- What the line under the head of a table is made of. -/
def headRule (look : Look) : Char :=
  if look = .plain then '-' else '─'

/-- The style of a rank. -/
def rankStyle : GasRank → Style
  | .high => .red
  | .medium => .yellow
  | .low => .green
  | .unknown => .dimmed

/-- The gas of a function in a cell. -/
def gasCell (f : AnalyzedFunction) : String :=
  if 0 < f.gasUsage then grouped f.gasUsage else "N/A"

/-- A row of a table; the rank is a cell that is aligned already. -/
def tableRow (look : Look) (name gas : String) (rank : Span) (suggestions savings : String) : Line :=
  let rule := " " ++ columnRule look ++ " "
  [.bare (alignLeft 20 name ++ rule ++ alignRight 12 gas ++ rule), rank,
   .bare (rule ++ alignCenter 11 suggestions ++ rule ++ alignRight 17 savings)]

/-- The lines of a table of functions. -/
def tableLines (look : Look) (functions : List AnalyzedFunction) : Document :=
  [blankLine,
   tableRow look "Function" "Gas Usage" (.bare (alignCenter 8 "Rank")) "Suggestions"
    "Potential Savings",
   styledLine .dimmed (String.ofList (List.replicate 82 (headRule look)))] ++
  functions.map fun f =>
    tableRow look f.function.name (gasCell f)
      (.styled (rankStyle f.gasRank) (alignCenter 8 f.gasRank.keyword))
      (number f.suggestions.length) (grouped f.potentialSavings)

/-- The lines on a contract. -/
def contractLines (look : Look) (layout : Layout) (contract : ContractAnalysis) : Document :=
  [blankLine,
   styledLine .boldCyan ("📄 Contract: " ++ contract.name),
   styledLine .dimmed
    ("Functions: " ++ number contract.functions.length ++ " | Lines: " ++
      number contract.totalLines)] ++
  (if contract.gasDataAvailable then
    [styledLine .green "✅ Real gas data available",
     styledLine .dimmed ("Total gas usage: " ++ grouped contract.totalGasUsage)] ++
    (if 0 < contract.totalPotentialSavings then
      [styledLine .yellow
        ("💰 Potential savings: " ++ grouped contract.totalPotentialSavings ++ " gas")]
    else [])
  else [styledLine .yellow "⚠️  No gas data - static analysis only"]) ++
  match layout with
  | .list => contract.functions.flatMap functionLines
  | .table => tableLines look contract.functions

/-- The lines on the files that failed. -/
def failureLines (failures : List Failure) : Document :=
  if failures.isEmpty then []
  else
    blankLine :: styledLine .boldRed "❌ Failed files" ::
      failures.map fun failure =>
        [.bare ("  " ++ failure.file ++ " "), .styled .dimmed failure.error]

/-- A batch with its functions in a layout. -/
def analysisDocument (look : Look) (layout : Layout) (batch : Batch) : Document :=
  summaryLines batch.summary batch.framework ++
    batch.contracts.flatMap (contractLines look layout) ++ failureLines batch.failures

/-! ## Suggestions -/

/-- The sign of an impact. -/
def impactIcon : Impact → String
  | .high => "🔥"
  | .medium => "⚡"
  | .low => "💡"

/-- The sign of an origin. -/
def originIcon : Origin → String
  | .llm => "🤖"
  | .static => "🔧"

/-- A confidence in percent. -/
def confidencePercent (confidence : Float) : Nat :=
  Decimal.roundToNat (1 <<< 32 - 1) (confidence * 100)

/-- The lines on a suggestion. -/
def suggestionLines (s : Suggestion) : Document :=
  [bareLine ("   " ++ impactIcon s.impact ++ " " ++ originIcon s.origin ++ " " ++ s.message),
   styledLine .dimmed
    ("      Impact: " ++ s.impact.keyword ++ " | Confidence: " ++
      number (confidencePercent s.confidence) ++ "%")]

/-- Texts with a comma and a space between them. -/
def listed (texts : List String) : String :=
  String.ofList (join ", ".toList (texts.map String.toList))

/-- The lines on the suggestions for a function. -/
def adviceLines (f : AnalyzedFunction) : Document :=
  [blankLine,
   styledLine .yellow ("🔍 Function: " ++ f.function.name),
   styledLine .dimmed
    ("   Visibility: " ++ f.function.visibility.keyword ++ " | Complexity: " ++
      number f.function.complexity)] ++
  (if f.function.patterns.isEmpty then []
  else
    [styledLine .dimmed
      ("   Patterns: " ++ listed (f.function.patterns.map (·.kind.keyword)))]) ++
  if f.suggestions.isEmpty then
    [styledLine .green "   ✅ No optimization suggestions - function appears optimal"]
  else f.suggestions.flatMap suggestionLines

/-- The suggestions for all functions of a batch. -/
def suggestionsDocument (batch : Batch) (modelEnabled : Bool) : Document :=
  [blankLine,
   styledLine .boldBlue "💡 Gas Guardian - Optimization Suggestions",
   styledLine .dimmed ("LLM enabled: " ++ if modelEnabled then "Yes" else "No")] ++
  (batch.contracts.flatMap fun contract =>
    blankLine :: styledLine .cyan ("📄 Analyzing: " ++ contract.file) ::
      contract.functions.flatMap adviceLines) ++
  failureLines batch.failures ++
  [blankLine, styledLine .green "✅ Analysis complete!"]

/-! ## Diagnostics -/

/-- The diagnostics of a batch, one on a line. -/
def diagnosticsDocument (batch : Batch) : Document :=
  batch.contracts.flatMap fun contract =>
    contract.diagnostics.map fun d =>
      [.styled .yellow "⚠️ ",
       .bare (" " ++ contract.file ++ " [" ++ d.origin ++ "] " ++ d.message)]

/-! ## Headings -/

/-- The lines before an analysis is made. -/
def headingDocument (framework : Framework) (files : List String) : Document :=
  [styledLine .boldBlue "🔍 Gas Guardian - Contract Analysis",
   styledLine .dimmed ("Framework: " ++ framework.keyword),
   styledLine .dimmed ("Files: " ++ listed files)]

end GasAdvisor.Terminal
