import GasAdvisor.Cache.Entry
import GasAdvisor.Digest.Sha256
import GasAdvisor.Workspace.Basic
import GasAdvisor.Workspace.Path

/-!
# Caches of suggestions

A cache holds suggestions by key for a lifetime. Its entries are in memory and, if it has a directory,
also in one file for each key, so that another cache with the directory finds them. A look-up takes
the entry in memory if it is fresh, or else the one in the file, which is then held in memory too.
What cannot be read is not there, and what cannot be written is held in memory alone.
-/

namespace GasAdvisor

open MonadWorkspace

/-- A cache of suggestions. -/
structure Cache where
  /-- For how many milliseconds an entry is fresh. -/
  lifetime : Nat
  directory : Option String
  /-- The entries in memory, each key once. -/
  entries : List (String × CacheEntry)
  deriving DecidableEq

namespace Cache

/-- The number of milliseconds in a day. -/
def day : Nat := 24 * 60 * 60 * 1000

/-- A cache without entries in memory. -/
def opened (lifetime : Nat) (directory : Option String) : Cache := ⟨lifetime, directory, []⟩

/-- A cache in memory alone, with a lifetime of a day. -/
instance : Inhabited Cache := ⟨opened day none⟩

/-- The number of entries in memory, fresh or not. -/
def size (cache : Cache) : Nat := cache.entries.length

/-- Whether there are no entries in memory. -/
def isEmpty (cache : Cache) : Bool := cache.entries.isEmpty

/-- The key of a text of some kind: the digest of the kind and the text with a colon between them. -/
def key (kind text : String) : String :=
  String.ofList (Sha256.ofText (kind.toList ++ ':' :: text.toList))

/-- The cache with an entry in memory under a key. -/
def insert (cache : Cache) (key : String) (entry : CacheEntry) : Cache :=
  { cache with entries := (key, entry) :: cache.entries.filter (·.1 ≠ key) }

/-- The fresh entry under a key in memory. -/
def remembered? (cache : Cache) (now : Int) (key : String) : Option CacheEntry :=
  (cache.entries.lookup key).filter (·.isFresh cache.lifetime now)

/-- The path of the file for a key in a directory. -/
def entryPath (directory key : String) : String :=
  Path.join directory (key ++ ".json")

variable {m : Type → Type} [Monad m] [MonadWorkspace m]

/-- The entry in the file for a key. -/
def stored? (cache : Cache) (key : String) : m (Option CacheEntry) := do
  match cache.directory with
  | none => return none
  | some directory => return (← Workspace.readText? (entryPath directory key)).bind CacheEntry.ofText?

/-- Puts an entry into the file for a key, if it can be written. -/
def store (cache : Cache) (key : String) (entry : CacheEntry) : m Unit := do
  match cache.directory with
  | none => return ()
  | some directory =>
    match ← createDirectories directory with
    | .error _ => return ()
    | .ok _ =>
      let _ ← Workspace.writeText (entryPath directory key) entry.text

/-- The suggestions under a key at a time, and the cache after the look-up. -/
def get (cache : Cache) (now : Int) (key : String) : m (Option (List Suggestion) × Cache) := do
  match cache.remembered? now key with
  | some entry => return (some entry.suggestions, cache)
  | none =>
    match (← cache.stored? key).filter (·.isFresh cache.lifetime now) with
    | some entry => return (some entry.suggestions, cache.insert key entry)
    | none => return (none, cache)

/-- The cache after suggestions were put under a key at a time. -/
def put (cache : Cache) (now : Int) (key : String) (suggestions : List Suggestion) : m Cache := do
  let entry : CacheEntry := ⟨now, suggestions⟩
  cache.store key entry
  return cache.insert key entry

end Cache

end GasAdvisor
