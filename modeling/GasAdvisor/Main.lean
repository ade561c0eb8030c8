import Std.Time.DateTime.Timestamp
import GasAdvisor.Command.Run
import GasAdvisor.Workspace.Timestamp

/-!
# Command line

Runs the command line on the disk. Other programs are not started from here, so costs come from stored
reports alone.
-/

namespace GasAdvisor.Disk

/-- The fault that an error of the file system is. -/
def faultOf : IO.Error → FileFault
  | .noFileOrDirectory .. => .missing
  | .inappropriateType _ _ details =>
    if details = "is a directory" then .isDirectory else .notDirectory
  | .permissionDenied .. => .other "Permission denied (os error 13)"
  | e => .other (toString e)

/-- What comes of an operation on the disk. -/
def attempt {α : Type} (operation : IO α) : IO (Except FileFault α) := do
  match ← operation.toBaseIO with
  | .ok value => return .ok value
  | .error e => return .error (faultOf e)

/-- Whether something of a type stands at a path. -/
def isOfType (type : IO.FS.FileType) (path : String) : IO Bool := do
  if path.isEmpty then return false
  match ← ((← IO.currentDir) / path).metadata.toBaseIO with
  | .ok data => return data.type == type
  | .error _ => return false

/-- The time in nanoseconds since 1970. -/
def clock : IO Nat := do
  return (← Std.Time.Timestamp.now).toNanosecondsSinceUnixEpoch.val.toNat

instance : MonadWorkspace IO where
  directory := do
    return (Path.names? [] (← IO.currentDir).toString).getD []
  isFile path := isOfType .file path
  isDirectory path := isOfType .dir path
  read path := attempt do
    return (← IO.FS.readBinFile path).toList.map (·.toNat)
  write path content := attempt do
    IO.FS.writeBinFile path ⟨(content.map UInt8.ofNat).toArray⟩
  createDirectories path := attempt do
    if !path.isEmpty then IO.FS.createDirAll path
  run? _ _ := return none
  home? := IO.getEnv "HOME"
  now := return (← clock) / 1000000
  timestamp := return Timestamp.text (← clock)

end GasAdvisor.Disk

def main (words : List String) : IO UInt32 := do
  let terminal ← (← IO.getStdout).isTty
  let result ← GasAdvisor.Command.run (m := IO) terminal words
  IO.print result.output
  IO.eprint result.errors
  return result.status.toUInt32
