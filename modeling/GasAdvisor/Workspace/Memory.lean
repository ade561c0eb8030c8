import GasAdvisor.Workspace.Basic
import GasAdvisor.Workspace.FileTree

/-!
# Workspaces in memory

A workspace that is a value: a file tree, the programs that can be started there with what they print
and write, a record of the starts, and a clock that stands still.
-/

namespace GasAdvisor

open Text

/-- A program that can be started. -/
structure Program where
  output : List Nat
  /-- The files that it writes into the directory it runs in. -/
  writes : List (String × List Nat)
  deriving DecidableEq, Repr

/-- A start of a program. -/
structure Start where
  invocation : Invocation
  place : Place
  deriving DecidableEq, Repr

/-- A workspace in memory. -/
structure MemoryWorkspace where
  tree : FileTree
  directory : Place
  programs : List (String × Program)
  /-- The starts so far, the first one first. -/
  starts : List Start
  home : Option String
  now : Int
  timestamp : String

namespace MemoryWorkspace

/-- The workspace with several files written one after the other. -/
def plant (w : MemoryWorkspace) (place : Place) (files : List (String × List Nat)) :
    MemoryWorkspace :=
  { w with tree := files.foldl (fun tree (path, content) => tree.plant place path content) w.tree }

/-- What a path names. -/
def entry? (w : MemoryWorkspace) (path : String) : Option Entry :=
  (w.tree.entry? w.directory path).toOption

/-- The workspace after a change of its tree, or as it is with the fault. -/
def update (w : MemoryWorkspace) : Except FileFault FileTree → Except FileFault Unit × MemoryWorkspace
  | .ok tree => (.ok (), { w with tree })
  | .error fault => (.error fault, w)

/-- The place where a program can be run for a path: that of a directory. -/
def workplace? (w : MemoryWorkspace) (path : String) : Option Place :=
  match w.tree.place? w.directory path with
  | .ok place => if w.tree.get? place = some .directory then some place else none
  | .error _ => none

/-- What a started program prints, and the workspace after it. -/
def run? (w : MemoryWorkspace) (invocation : Invocation) (path : String) :
    Option (List Nat) × MemoryWorkspace :=
  match w.programs.lookup invocation.program, w.workplace? path with
  | some program, some place =>
    (some program.output,
      { w.plant place program.writes with starts := w.starts ++ [⟨invocation, place⟩] })
  | _, _ => (none, w)

instance : MonadWorkspace (StateM MemoryWorkspace) where
  directory := fun w => (w.directory, w)
  isFile path := fun w => (match w.entry? path with
    | some (.file _) => true
    | _ => false, w)
  isDirectory path := fun w => (w.entry? path = some .directory, w)
  read path := fun w => (w.tree.read w.directory path, w)
  write path content := fun w => w.update (w.tree.write w.directory path content)
  createDirectories path := fun w => w.update (w.tree.createDirectories w.directory path)
  run? invocation path := fun w => w.run? invocation path
  home? := fun w => (w.home, w)
  now := fun w => (w.now, w)
  timestamp := fun w => (w.timestamp, w)

end MemoryWorkspace

end GasAdvisor
