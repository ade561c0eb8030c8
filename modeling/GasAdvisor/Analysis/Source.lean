import GasAdvisor.Advice.Provider
import GasAdvisor.Configuration.Basic
import GasAdvisor.Suggestion.Merge

/-!
# Analysing a source text

A source text is read, each function gets the findings of the rules and, if there is a provider, its
suggestions, both merged into one ranked list, and the costs are attached. A provider that fails for
a function leaves that function with the findings alone and a diagnostic.

How the functions are asked about is left open (`Analyzer.analyzeAsking`): a provider may keep a cache,
count its calls or answer differently each time.
-/

namespace GasAdvisor

/-- What an analysis is made with. -/
structure Analyzer where
  scanning : Scanning
  rules : RuleSettings
  similarityThreshold : Float
  provider : Option Provider
  /-- The framework that costs come from, if they are measured. -/
  framework : Option Framework
  /-- How many milliseconds the analysis waits for the provider. -/
  patience : Nat

namespace Analyzer

/-- The analyzer that a configuration describes, with no provider and without measured costs. -/
def ofConfiguration (config : Configuration) : Analyzer where
  scanning := config.scanning
  rules := config.rules
  similarityThreshold := config.similarityThreshold
  provider := none
  framework := none
  patience := config.model.timeoutSeconds * 1000

/-- The analyzer with a provider. -/
def withProvider (analyzer : Analyzer) (provider : Option Provider) : Analyzer :=
  { analyzer with provider }

/-- The analyzer of costs that a framework measures, or that are not measured. -/
def withFramework (analyzer : Analyzer) (framework : Option Framework) : Analyzer :=
  { analyzer with framework }

/-- What the provider says about a function; without a provider, nothing. -/
def outcome (analyzer : Analyzer) (f : Function) : Outcome :=
  match analyzer.provider with
  | none => .ok []
  | some provider => provider.ask analyzer.patience f.name f.sourceCode

/-- The ranked suggestions for a function, given what the provider said. -/
def ranked (analyzer : Analyzer) (f : Function) (outcome : Outcome) : List Suggestion :=
  let generated := match outcome with
    | .ok suggestions => suggestions
    | .error _ => []
  Suggestion.merge analyzer.similarityThreshold [Rule.findings analyzer.rules f, generated]

/-- The diagnostic on a text without any declaration. -/
def noDeclaration : Diagnostic :=
  ⟨"parser", "No contract, interface or library declaration found"⟩

/-- The diagnostic on a function for which the provider failed. -/
def providerFailed (f : Function) (e : ProviderError) : Diagnostic :=
  ⟨"llm", f.name ++ ": " ++ e.message⟩

/-- The diagnostics on a contract, given what the provider said about each of its functions. -/
def diagnostics (contract : Contract) (outcomes : List Outcome) : List Diagnostic :=
  (if contract.isInvalid then [noDeclaration] else []) ++
    (contract.functions.zip outcomes).filterMap fun (f, outcome) =>
      match outcome with
      | .ok _ => none
      | .error e => some (providerFailed f e)

/-- The analysis of a contract, given what the provider said about each of its functions. -/
def analysisOf (analyzer : Analyzer) (contract : Contract) (outcomes : List Outcome)
    (file : String) (costs : Costs) : ContractAnalysis :=
  let ranked := (contract.functions.zip outcomes).map fun (f, outcome) => analyzer.ranked f outcome
  { ContractAnalysis.of contract file ranked costs with
    framework := analyzer.framework
    diagnostics := diagnostics contract outcomes }

/-- The analysis of a source text whose functions are asked about one after the other. -/
def analyzeAsking {m : Type → Type} [Monad m] (analyzer : Analyzer) (ask : Function → m Outcome)
    (source file : String) (costs : Costs) : m ContractAnalysis := do
  let contract := Contract.read analyzer.scanning source
  let outcomes ← contract.functions.mapM ask
  return analyzer.analysisOf contract outcomes file costs

/-- The analysis of a source text. -/
def analyze (analyzer : Analyzer) (source file : String) (costs : Costs) : ContractAnalysis :=
  Id.run (analyzer.analyzeAsking (fun f => pure (analyzer.outcome f)) source file costs)

end Analyzer

end GasAdvisor
