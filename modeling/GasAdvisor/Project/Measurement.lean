import GasAdvisor.Project.Report
import GasAdvisor.Project.Root

/-!
# Measured costs

The costs of the project that a contract belongs to: those of the stored report, or else, if the
framework's tool may be run, those of a fresh run. A report without costs is as good as none. Nothing
here fails: where there is no project, no tool or no readable report, there are no costs.
-/

namespace GasAdvisor

open MonadWorkspace

namespace Framework

/-- The tool of a framework that measures gas. -/
def tool : Framework → Invocation
  | .foundry => ⟨"forge", ["snapshot"], []⟩
  | .hardhat => ⟨"npx", ["hardhat", "test"], [("REPORT_GAS", "true")]⟩

/-- The costs that a run of the tool states in what it prints. -/
def costsOfRun : Framework → String → Costs
  | .foundry => Foundry.ofRun
  | .hardhat => Hardhat.ofRun

/-- The costs after a run of the tool, from the report and from what was printed. A snapshot goes
before the output of Foundry, and the output of Hardhat before its report. -/
def fresh (framework : Framework) (report : Option Costs) (printed : Costs) : Costs :=
  let report := report.getD .empty
  match framework with
  | .foundry => if report.isEmpty then printed else report
  | .hardhat => if printed.isEmpty then report else printed

variable {m : Type → Type} [Monad m] [MonadWorkspace m]

/-- Whether a directory is the root of a project. -/
def isProject : Framework → (directory : String) → m Bool
  | .foundry => Foundry.isProject
  | .hardhat => Hardhat.isProject

/-- The costs of the report in a directory. -/
def report? : Framework → (directory : String) → m (Option Costs)
  | .foundry => Foundry.report?
  | .hardhat => Hardhat.report?

/-- The costs of a run of the tool in a directory. -/
def measure (framework : Framework) (directory : String) : m Costs := do
  if !(← framework.isProject directory) then return .empty
  match ← run? framework.tool directory with
  | none => return .empty
  | some output =>
    let printed := framework.costsOfRun (String.ofList (Text.decodeLossy output))
    return framework.fresh (← framework.report? directory) printed

end Framework

/-- How the costs of contracts are found out. -/
structure Measurement where
  framework : Framework
  /-- The root of the project that a contract belongs to if no other is found. -/
  root : String
  /-- Whether the tool is run where the report has no costs. -/
  runTool : Bool
  deriving DecidableEq, Repr

namespace Measurement

variable {m : Type → Type} [Monad m] [MonadWorkspace m]

/-- The directory of the project that a contract belongs to. -/
def directory (measurement : Measurement) (contract : Option String) : m String := do
  match contract with
  | none => return measurement.root
  | some path =>
    match ← Project.root? measurement.framework.isProject path with
    | none => return measurement.root
    | some names => return Path.ofNames names

/-- The costs of the project that a contract belongs to. -/
def costs (measurement : Measurement) (contract : Option String) : m Costs := do
  let directory ← measurement.directory contract
  let stored := (← measurement.framework.report? directory).getD .empty
  if !stored.isEmpty || !measurement.runTool then return stored
  measurement.framework.measure directory

end Measurement

end GasAdvisor
