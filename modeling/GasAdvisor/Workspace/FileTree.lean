import GasAdvisor.Workspace.FileError
import GasAdvisor.Workspace.Path
import GasAdvisor.Text.Utf8

/-!
# File trees

A tree of files and directories, held in memory. A place is given by the names on the way from the
root, which is a directory; what a path names is found by walking along its parts from a place
(`FileTree.walk`), and only directories can be walked through.
-/

namespace GasAdvisor

open Text

/-- What stands at a place. -/
inductive Entry where
  | file (content : List Nat)
  | directory
  deriving DecidableEq, Repr

/-- A place: the names on the way to it from the root. -/
abbrev Place := List String

/-- A tree of files and directories: what stands at each place but the root. -/
structure FileTree where
  entries : List (Place × Entry)
  deriving DecidableEq, Repr

namespace FileTree

/-- The tree with nothing in it but the root. -/
def empty : FileTree := ⟨[]⟩

/-- What stands at a place. -/
def get? (tree : FileTree) (place : Place) : Option Entry :=
  match place with
  | [] => some .directory
  | place => tree.entries.lookup place

/-- The tree with nothing at a place. -/
def erase (tree : FileTree) (place : Place) : FileTree :=
  ⟨tree.entries.filter (·.1 ≠ place)⟩

/-- The tree with something else at a place. -/
def insert (tree : FileTree) (place : Place) (entry : Entry) : FileTree :=
  ⟨(place, entry) :: (tree.erase place).entries⟩

/-- The largest number of bytes in a name. -/
def nameLimit : Nat := 255

/-- Where one part of a path leads from a place, which has to be a directory. -/
def step (tree : FileTree) (place : Place) (part : String) : Except FileFault Place :=
  match tree.get? place with
  | none => .error .missing
  | some (.file _) => .error .notDirectory
  | some .directory =>
    if !Path.isName part then .ok place
    else if part = ".." then .ok place.dropLast
    else if nameLimit < byteSize part.toList then .error .nameTooLong
    else .ok (place ++ [part])

/-- Where the parts of a path lead from a place. Nothing has to stand there. -/
def walk (tree : FileTree) (place : Place) (parts : List String) : Except FileFault Place :=
  parts.foldlM tree.step place

/-- The largest number of bytes in a path. -/
def pathLimit : Nat := 4095

/-- Refuses a path that leads nowhere in any tree. -/
def accept (path : String) : Except FileFault Unit :=
  if path.isEmpty then .error .missing
  else if path.toList.contains (Char.ofNat 0) then .error .nulInPath
  else if pathLimit < byteSize path.toList then .error .nameTooLong
  else .ok ()

/-- Where a path leads from a place. -/
def place? (tree : FileTree) (start : Place) (path : String) : Except FileFault Place := do
  accept path
  tree.walk (if Path.isAbsolute path then [] else start) (Path.parts path)

/-- What a path names. -/
def entry? (tree : FileTree) (start : Place) (path : String) : Except FileFault Entry := do
  match tree.get? (← tree.place? start path) with
  | some entry => .ok entry
  | none => .error .missing

/-- The content of a file. -/
def read (tree : FileTree) (start : Place) (path : String) : Except FileFault (List Nat) := do
  match ← tree.entry? start path with
  | .file content => .ok content
  | .directory => .error .isDirectory

/-- A path without the slashes at its end, if it is not the root. -/
def trimmed (path : String) : String :=
  match path.toList with
  | [] => path
  | c :: rest => String.ofList (c :: (rest.reverse.dropWhile (· = '/')).reverse)

/-- The tree with a content in a file, which is made if it is not there. -/
def write (tree : FileTree) (start : Place) (path : String) (content : List Nat) :
    Except FileFault FileTree := do
  accept path
  let place ← tree.place? start (trimmed path)
  if Path.endsInSlash path || tree.get? place = some .directory then .error .isDirectory
  else .ok (tree.insert place (.file content))

/-- The tree with a directory at a place where nothing stands, and the place below it to which a part
of a path leads. -/
def stepOrCreate (state : FileTree × Place) (part : String) : Except FileFault (FileTree × Place) := do
  let (tree, place) := state
  let next ← tree.step place part
  match tree.get? next with
  | none => .ok (tree.insert next .directory, next)
  | some _ => .ok (tree, next)

/-- The tree with a directory at a path and on the whole way to it. The empty path asks for none. -/
def createDirectories (tree : FileTree) (start : Place) (path : String) :
    Except FileFault FileTree := do
  if path.isEmpty then return tree
  accept path
  let start := if Path.isAbsolute path then [] else start
  let (tree, place) ← (Path.parts path).foldlM stepOrCreate (tree, start)
  if tree.get? place = some .directory then .ok tree else .error .notDirectory

/-- The path of the directory that holds a path. -/
def parentPath (path : String) : String :=
  String.ofList (Text.join ['/'] (pieces '/' path.toList).dropLast)

/-- The tree with a content in a file and a directory on the whole way to it, or with a directory
where the path ends in a slash. What cannot be done is left out. -/
def plant (tree : FileTree) (start : Place) (path : String) (content : List Nat) : FileTree :=
  let directory := if Path.endsInSlash path then path else parentPath path
  let planted := do
    let tree ← tree.createDirectories start directory
    if Path.endsInSlash path then .ok tree else tree.write start path content
  match planted with
  | .ok tree => tree
  | .error _ => tree

/-- The tree without a file. -/
def remove (tree : FileTree) (start : Place) (path : String) : Except FileFault FileTree := do
  let _ ← tree.read start path
  .ok (tree.erase (← tree.place? start path))

/-- The names of what stands in a directory, in ascending order. -/
def namesIn (tree : FileTree) (place : Place) : List String :=
  let held := tree.entries.filterMap fun (other, _) =>
    if other.dropLast = place then other.getLast? else none
  held.mergeSort (· ≤ ·)

end FileTree

end GasAdvisor
