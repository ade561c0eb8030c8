import GasAdvisor.Text.Lines

/-!
# Paths

A path is a text whose parts stand between slashes; one that starts with a slash is absolute.

A directory is also named by the names on the way to it from the root (`Path.names?`). That is a view
of the text alone: two dots stay a name like any other, and nothing has to exist. The directory that
holds a path and those above it are its `Path.ancestors`, nearest first.
-/

namespace GasAdvisor.Path

open Text

/-- The parts of a path. -/
def parts (path : String) : List String :=
  (pieces '/' path.toList).map String.ofList

/-- Whether a path starts at the root. -/
def isAbsolute (path : String) : Bool :=
  path.toList.head? = some '/'

/-- Whether a path ends in a slash and so can only name a directory. -/
def endsInSlash (path : String) : Bool :=
  path.toList.getLast? = some '/'

/-- A path taken from a directory. An absolute path does not depend on the directory. -/
def join (directory path : String) : String :=
  if isAbsolute path || directory.isEmpty then path
  else if endsInSlash directory then directory ++ path
  else directory ++ "/" ++ path

/-- Whether a part of a path names something, and not the directory it is in. -/
def isName (part : String) : Bool :=
  part ≠ "" && part ≠ "."

/-- The names on the way from the root to a path that is taken from a directory. The empty path
leads nowhere. -/
def names? (directory : List String) (path : String) : Option (List String) :=
  if path.isEmpty then none
  else
    let own := (parts path).filter isName
    some (if isAbsolute path then own else directory ++ own)

/-- The absolute path with the given names. -/
def ofNames (names : List String) : String :=
  "/" ++ String.ofList (Text.join ['/'] (names.map String.toList))

/-- The directories above a path, nearest first and the root last. -/
def ancestors (names : List String) : List (List String) :=
  match names with
  | [] => []
  | name :: rest => (ancestors rest).map (name :: ·) ++ [[]]

/-- The path that leads from a directory to a place below it, a dot for the directory itself. -/
def relative? (directory names : List String) : Option String :=
  if directory.isPrefixOf names then
    match names.drop directory.length with
    | [] => some "."
    | rest => some (String.ofList (Text.join ['/'] (rest.map String.toList)))
  else none

end GasAdvisor.Path
