import GasAdvisor.Workspace.Basic
import GasAdvisor.Workspace.Path

/-!
# The root of a project

The root of the project that a contract belongs to is the nearest directory at or above the contract
that is a root, among so many directories. Paths are taken as texts here: two dots lead down to a
directory of that name, and the way up ends at the root of the file system.
-/

namespace GasAdvisor.Project

/-- The number of directories that are looked at. -/
def searchLimit : Nat := 10

/-- The directories in which the root of a project is looked for, nearest first. -/
def candidates (names : List String) : List (List String) :=
  (Path.ancestors names).take searchLimit

variable {m : Type → Type} [Monad m]

/-- The nearest candidate that is a root. -/
def nearestRoot? (isRoot : (directory : List String) → m Bool) (names : List String) :
    m (Option (List String)) :=
  (candidates names).findM? isRoot

/-- The root of the project of a contract, for a test of paths. -/
def root? [MonadWorkspace m] (isRoot : (path : String) → m Bool) (contract : String) :
    m (Option (List String)) := do
  match Path.names? (← MonadWorkspace.directory) contract with
  | none => return none
  | some names => nearestRoot? (fun directory => isRoot (Path.ofNames directory)) names

end GasAdvisor.Project
