import GasAdvisor.Workspace.FileError
import GasAdvisor.Text.Utf8

/-!
# Workspaces

What a computation may ask of the place it works in: to read and write files, to start programs, and
to tell the time. A computation that asks for nothing else is written for every monad with these
operations, so that it runs on a disk and on a tree in memory alike.
-/

namespace GasAdvisor

open Text

/-- A program to start. -/
structure Invocation where
  program : String
  arguments : List String
  /-- The variables that are set for the program. -/
  environment : List (String × String)
  deriving DecidableEq, Repr

/-- The operations of a workspace. Paths are taken from its directory. -/
class MonadWorkspace (m : Type → Type) where
  /-- The names on the way from the root to the directory of the workspace. -/
  directory : m (List String)
  isFile : (path : String) → m Bool
  isDirectory : (path : String) → m Bool
  read : (path : String) → m (Except FileFault (List Nat))
  write : (path : String) → (content : List Nat) → m (Except FileFault Unit)
  createDirectories : (path : String) → m (Except FileFault Unit)
  /-- What a program prints that is run in a directory; nothing if it cannot be started. -/
  run? : Invocation → (path : String) → m (Option (List Nat))
  /-- The home directory of the user. -/
  home? : m (Option String)
  /-- The time in milliseconds since 1970. -/
  now : m Int
  /-- The time in words. -/
  timestamp : m String

namespace Workspace

variable {m : Type → Type} [Monad m] [MonadWorkspace m]

/-- The text of a file. -/
def readText (path : String) : m (Except FileFault String) := do
  match ← MonadWorkspace.read path with
  | .error fault => return .error fault
  | .ok content =>
    match decode? content with
    | some text => return .ok (String.ofList text)
    | none => return .error .notText

/-- The text of a file, if it can be read. -/
def readText? (path : String) : m (Option String) := do
  return (← readText path).toOption

/-- Puts a text into a file. -/
def writeText (path text : String) : m (Except FileFault Unit) :=
  MonadWorkspace.write path (encode text.toList)

end Workspace

end GasAdvisor
