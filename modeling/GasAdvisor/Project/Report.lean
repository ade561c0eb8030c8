import GasAdvisor.Analysis.Basic
import GasAdvisor.Cost.Foundry
import GasAdvisor.Cost.Hardhat
import GasAdvisor.Workspace.Basic
import GasAdvisor.Workspace.Path

/-!
# Projects and their reports

How the project of a framework is recognised, and the costs that its stored report states.

* A Foundry project has a file `foundry.toml` or a directory `lib`; its report is `.gas-snapshot`.
* A Hardhat project has a configuration file or lists the framework in `package.json`; its report is
  the first file of several.
-/

namespace GasAdvisor

open MonadWorkspace Workspace

namespace Foundry

variable {m : Type → Type} [Monad m] [MonadWorkspace m]

/-- Whether a directory is the root of a project. -/
def isProject (directory : String) : m Bool := do
  if ← isFile (Path.join directory "foundry.toml") then return true
  isDirectory (Path.join directory "lib")

/-- The costs of the snapshot in a directory. -/
def report? (directory : String) : m (Option Costs) := do
  return (← readText? (Path.join directory ".gas-snapshot")).map ofSnapshot

end Foundry

namespace Hardhat

/-- The sections of a package that list what it depends on. -/
def dependencySections : List String := ["dependencies", "devDependencies"]

/-- Whether a package lists the framework among what it depends on. -/
def isListedIn (package : Json) : Bool :=
  dependencySections.any fun section_ =>
    ((member section_ package).get? "hardhat").isSome

/-- The files that may hold the report, in the order in which they are looked for. -/
def reportFiles : List String :=
  ["gasReporterOutput.json", "gas-report.json", "reports/gas-report.json", ".gas-report.json"]

variable {m : Type → Type} [Monad m] [MonadWorkspace m]

/-- Whether a file is a package that lists the framework. -/
def isPackage (path : String) : m Bool := do
  match ← readText? path with
  | none => return false
  | some content => return (Json.parse? content.toList).any (fun package => isListedIn package.normalize)

/-- Whether a directory is the root of a project. -/
def isProject (directory : String) : m Bool := do
  if ← isFile (Path.join directory "hardhat.config.js") then return true
  if ← isFile (Path.join directory "hardhat.config.ts") then return true
  isPackage (Path.join directory "package.json")

/-- The costs of the first report in a directory. -/
def report? (directory : String) : m (Option Costs) := do
  match ← (reportFiles.map (Path.join directory)).findM? isFile with
  | none => return none
  | some path => return (← readText? path).map ofReport

end Hardhat

end GasAdvisor
