import GasAdvisor.Analysis.Source
import GasAdvisor.Project.Measurement

/-!
# Analysing files

Each file is read, its costs are found out, and its text is analysed. The files that cannot be read
are told apart from the others and do not stop them: `Batch.of` puts each outcome in one of two
lists, both in the order of the files.
-/

namespace GasAdvisor

/-- What files are analysed with: how their texts are analysed, how suggestions for a function are
asked for, and how costs are found out, if at all. -/
structure Survey (m : Type → Type) where
  analyzer : Analyzer
  ask : Function → m Outcome
  measurement : Option Measurement

namespace Survey

variable {m : Type → Type}

/-- The survey with an analyzer that asks its own provider. -/
def ofAnalyzer [Monad m] (analyzer : Analyzer) (measurement : Option Measurement) : Survey m :=
  ⟨analyzer, fun f => return analyzer.outcome f, measurement⟩

/-- The framework that costs come from. -/
def framework (survey : Survey m) : Option Framework :=
  survey.measurement.map (·.framework)

/-- The diagnostic on a file without costs, where a framework was asked for them. -/
def costDiagnostics (measurement : Option Measurement) (costs : Costs) : List Diagnostic :=
  match measurement with
  | none => []
  | some measurement =>
    if costs.isEmpty then
      [⟨"gas-data", "No " ++ measurement.framework.keyword ++
        " gas data found, using static analysis only"⟩]
    else []

variable [Monad m] [MonadWorkspace m]

/-- The costs of the project that a file belongs to. -/
def costs (survey : Survey m) (path : String) : m Costs :=
  match survey.measurement with
  | none => return .empty
  | some measurement => measurement.costs (some path)

/-- The analysis of the text of a file. -/
def analyzeText (survey : Survey m) (path text : String) : m ContractAnalysis := do
  let costs ← survey.costs path
  let analyzer := survey.analyzer.withFramework survey.framework
  let analysis ← analyzer.analyzeAsking survey.ask text path costs
  return { analysis with
    diagnostics := analysis.diagnostics ++ costDiagnostics survey.measurement costs }

/-- The analysis of a file. -/
def analyzeFile (survey : Survey m) (path : String) : m (Except FileError ContractAnalysis) := do
  match ← Workspace.readText path with
  | .error fault => return .error (.ofFault path fault)
  | .ok text => return .ok (← survey.analyzeText path text)

end Survey

/-- The file that failed, if an outcome is an error. -/
def Failure.ofOutcome? (path : String) : Except FileError ContractAnalysis → Option Failure
  | .error e => some ⟨path, e.message⟩
  | .ok _ => none

/-- The batch of the outcomes for several paths. -/
def Batch.of (outcomes : List (String × Except FileError ContractAnalysis))
    (framework : Option Framework) (timestamp : String) : Batch :=
  let contracts := outcomes.filterMap fun (_, outcome) => outcome.toOption
  { contracts
    failures := outcomes.filterMap fun (path, outcome) => Failure.ofOutcome? path outcome
    summary := Summary.of contracts
    framework
    timestamp }

/-- Whether there were files and all of them failed. -/
def Batch.allFailed (batch : Batch) : Bool :=
  batch.contracts.isEmpty && !batch.failures.isEmpty

/-- The analysis of several files. -/
def Survey.analyzeFiles {m : Type → Type} [Monad m] [MonadWorkspace m] (survey : Survey m)
    (paths : List String) : m Batch := do
  let outcomes ← paths.mapM fun path => return (path, ← survey.analyzeFile path)
  return .of outcomes survey.framework (← MonadWorkspace.timestamp)

end GasAdvisor
