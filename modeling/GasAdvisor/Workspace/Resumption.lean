import GasAdvisor.Workspace.Memory

/-!
# Computations in steps

A computation that shares its state with others is done in steps (`Resumption`). One step changes the
state at once, and what it has seen says how to go on; between two steps others may change the state
as well. A computation in a workspace is one in steps, one for each operation that it asks for.
-/

namespace GasAdvisor

/-- A computation in steps over a shared state. -/
inductive Resumption (σ α : Type) where
  | done (a : α)
  /-- The next step does `effect`; `next` is what is left to do after it. -/
  | step (effect : σ → σ) (next : σ → Resumption σ α)

namespace Resumption

variable {σ α β : Type}

/-- A computation that goes on with what another one yields. -/
def bind : Resumption σ α → (α → Resumption σ β) → Resumption σ β
  | done a, f => f a
  | step effect next, f => step effect fun s => (next s).bind f

instance : Monad (Resumption σ) where
  pure := done
  bind := bind

/-- A computation that is one step. -/
def atomic (x : StateM σ α) : Resumption σ α :=
  step (fun s => (x.run s).2) fun s => done (x.run s).1

/-- The result of a computation that has come to its end. -/
def result? : Resumption σ α → Option α
  | done a => some a
  | step _ _ => none

/-- What is left of a computation after its next step, and the state after it. -/
def advance (x : Resumption σ α) (s : σ) : Resumption σ α × σ :=
  match x with
  | done a => (done a, s)
  | step effect next => (next s, effect s)

/-- A computation without others: all its steps in a row. -/
def alone : Resumption σ α → StateM σ α
  | done a => pure a
  | step effect next => fun s => (next s).alone (effect s)

instance [MonadWorkspace (StateM σ)] : MonadWorkspace (Resumption σ) where
  directory := atomic MonadWorkspace.directory
  isFile path := atomic (MonadWorkspace.isFile path)
  isDirectory path := atomic (MonadWorkspace.isDirectory path)
  read path := atomic (MonadWorkspace.read path)
  write path content := atomic (MonadWorkspace.write path content)
  createDirectories path := atomic (MonadWorkspace.createDirectories path)
  run? invocation path := atomic (MonadWorkspace.run? invocation path)
  home? := atomic MonadWorkspace.home?
  now := atomic MonadWorkspace.now
  timestamp := atomic MonadWorkspace.timestamp

end Resumption

end GasAdvisor
