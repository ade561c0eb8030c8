import GasAdvisor.Configuration.Toml
import GasAdvisor.Workspace.Basic

/-!
# Loading a configuration

The configuration of a run: from the file that was named, or else from the file of the default name
if there is one, or else the standard one.
-/

namespace GasAdvisor.Configuration

open MonadWorkspace

/-- Why no configuration could be loaded from a file. -/
inductive LoadError where
  | unreadable (error : FileError)
  | refused (path : String) (error : Error)
  deriving DecidableEq

namespace LoadError

/-- The text of an error. -/
def message : LoadError → String
  | .unreadable error => error.message
  | .refused path error => "Invalid configuration in " ++ path ++ ": " ++ error.message

/-- The text of an error and what it was caused by. -/
def causes (e : LoadError) : List String :=
  match e with
  | .unreadable error => error.causes
  | .refused .. => [e.message]

end LoadError

/-- The file that is looked for if none is named. -/
def defaultFile : String := "gas-guardian.toml"

variable {m : Type → Type} [Monad m] [MonadWorkspace m]

/-- The configuration in a file. -/
def ofFile (path : String) : m (Except LoadError Configuration) := do
  match ← Workspace.readText path with
  | .error fault => return .error (.unreadable (.ofFault path fault))
  | .ok text =>
    match read text with
    | .error e => return .error (.refused path e)
    | .ok config => return .ok config

/-- The configuration of a run, from the file that was named if one was. -/
def load (path : Option String) : m (Except LoadError Configuration) := do
  match path with
  | some path => ofFile path
  | none => if ← isFile defaultFile then ofFile defaultFile else return .ok standard

end GasAdvisor.Configuration
