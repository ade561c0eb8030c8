/-!
# Errors about files

What a file system refuses (`FileFault`), and why a file that was asked for could not be used
(`FileError`). A file that is not there is told apart from one that cannot be read.
-/

namespace GasAdvisor

/-- Why a file system refuses an operation on a path. -/
inductive FileFault where
  | missing
  | isDirectory
  | notDirectory
  | nameTooLong
  | nulInPath
  /-- The content is no text. -/
  | notText
  | other (cause : String)
  deriving DecidableEq, Repr

namespace FileFault

/-- The text of a fault. -/
def cause : FileFault → String
  | .missing => "No such file or directory (os error 2)"
  | .isDirectory => "Is a directory (os error 21)"
  | .notDirectory => "Not a directory (os error 20)"
  | .nameTooLong => "File name too long (os error 36)"
  | .nulInPath => "file name contained an unexpected NUL byte"
  | .notText => "stream did not contain valid UTF-8"
  | .other cause => cause

end FileFault

/-- Why a file could not be used. -/
inductive FileError where
  | notFound (path : String)
  | unreadable (path cause : String)
  deriving DecidableEq, Repr

namespace FileError

/-- The error that a fault on a path is. -/
def ofFault (path : String) : FileFault → FileError
  | .missing => .notFound path
  | fault => .unreadable path fault.cause

/-- The text of an error. -/
def message : FileError → String
  | .notFound path => "File not found: " ++ path
  | .unreadable path cause => "Failed to read " ++ path ++ ": " ++ cause

/-- The text of an error and what it was caused by. -/
def causes (e : FileError) : List String :=
  match e with
  | .notFound _ => [e.message]
  | .unreadable _ cause => [e.message, cause]

end FileError

end GasAdvisor
