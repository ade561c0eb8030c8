import GasAdvisor.Cache.Basic
import GasAdvisor.Workspace.Resumption

/-!
# Caches that share a directory

Several caches over one directory, each with entries of its own in memory and each doing one call at a
time. A call is a computation in steps, one for each operation on files, so the steps of calls of
different caches mix in any order. Between the steps files may be removed and may be spoilt, that is,
get a content which is no entry; a file that is half written is such a file.
-/

namespace GasAdvisor

/-- The entry that the content of a file holds. -/
def CacheEntry.ofContent? (content : List Nat) : Option CacheEntry :=
  (Text.decode? content).bind fun text => ofText? (String.ofList text)

/-- A call of a cache at a time. -/
inductive CacheCall where
  | put (time : Int) (key : String) (suggestions : List Suggestion)
  | get (time : Int) (key : String)
  deriving DecidableEq

namespace CacheCall

def time : CacheCall → Int
  | put time _ _ => time
  | get time _ => time

def key : CacheCall → String
  | put _ key _ => key
  | get _ key => key

variable {m : Type → Type} [Monad m] [MonadWorkspace m]

/-- What a call of a cache finds, and the cache after it. -/
def perform (cache : Cache) : CacheCall → m (Option (List Suggestion) × Cache)
  | put time key suggestions => do return (none, ← cache.put time key suggestions)
  | get time key => cache.get time key

end CacheCall

/-- A cache in use. -/
structure CacheUser where
  /-- The latest call. -/
  call : Option CacheCall
  /-- What is left of it. -/
  rest : Resumption MemoryWorkspace (Option (List Suggestion) × Cache)

namespace CacheUser

/-- A cache that has not been called. -/
def idle (cache : Cache) : CacheUser := ⟨none, .done (none, cache)⟩

/-- The suggestions that the latest call has found under its key. -/
def found? (user : CacheUser) : Option (List Suggestion) :=
  user.rest.result?.bind (·.1)

end CacheUser

/-- Caches that share the files of a workspace. -/
structure SharedCaches (ι : Type) where
  workspace : MemoryWorkspace
  users : ι → CacheUser

/-- What can happen to caches that share a directory. -/
inductive SharingEvent (ι : Type) where
  /-- A call begins. -/
  | call (who : ι) (call : CacheCall)
  /-- A call does its next step. -/
  | advance (who : ι)
  /-- A file is removed. -/
  | remove (path : String)
  /-- A file gets a content that is no entry. -/
  | spoil (path : String) (content : List Nat)

namespace SharedCaches

variable {ι : Type} [DecidableEq ι]

/-- Caches over a directory with a lifetime for each, before any call. -/
def opened (w : MemoryWorkspace) (directory : String) (lifetime : ι → Nat) : SharedCaches ι where
  workspace := w
  users who := .idle (.opened (lifetime who) (some directory))

/-- The caches with one of them changed. -/
def update (shared : SharedCaches ι) (who : ι) (user : CacheUser) : SharedCaches ι :=
  { shared with users := fun other => if other = who then user else shared.users other }

/-- The caches after an event. A cache takes no call before its latest one has come to its end, and a
file is not spoilt by an entry. What cannot be done to a file is left out. -/
def after? (shared : SharedCaches ι) : SharingEvent ι → Option (SharedCaches ι)
  | .call who call => do
    let (_, cache) ← (shared.users who).rest.result?
    return shared.update who ⟨some call, call.perform cache⟩
  | .advance who =>
    let (rest, w) := (shared.users who).rest.advance shared.workspace
    some { shared.update who { shared.users who with rest } with workspace := w }
  | .remove path =>
    let w := shared.workspace
    some { shared with workspace := (w.update (w.tree.remove w.directory path)).2 }
  | .spoil path content =>
    let w := shared.workspace
    if (CacheEntry.ofContent? content).isNone then
      some { shared with workspace := (w.update (w.tree.write w.directory path content)).2 }
    else none

/-- The caches after events, the first one first. -/
def run? (shared : SharedCaches ι) (events : List (SharingEvent ι)) : Option (SharedCaches ι) :=
  events.foldlM after? shared

end SharedCaches

end GasAdvisor
