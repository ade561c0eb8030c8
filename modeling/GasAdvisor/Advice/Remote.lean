import GasAdvisor.Advice.Provider
import GasAdvisor.Cache.Basic
import GasAdvisor.Configuration.Basic

/-!
# Remote models

A language model behind an endpoint, and the cache of its answers. A function that was asked about
before is answered from the cache. There is no network here, so any other question fails.

Settings name no model if they ask to keep answers for more seconds than 64 bits hold.
-/

namespace GasAdvisor

/-- A language model behind an endpoint. -/
structure RemoteModel where
  endpoint : String
  cache : Cache
  deriving DecidableEq

namespace RemoteModel

/-- The model that the settings name, for the user with a home directory or without one. -/
def ofSettings? (settings : ModelSettings) (home : Option String) : Option RemoteModel := do
  let seconds ← settings.keepSeconds?
  return {
    endpoint := settings.endpoint
    cache := .opened (seconds * 1000) (settings.cacheDirectoryIn? home) }

/-- The kind of text that questions are cached under. -/
def questionKind : String := "optimization"

/-- What the client says of a request that could not be sent. -/
def unsentText (endpoint : String) : String :=
  "error sending request for url (" ++ endpoint ++ ")"

variable {m : Type → Type} [Monad m] [MonadWorkspace m]

/-- What comes of asking about the text of a function. -/
def ask (model : RemoteModel) (text : String) : m Outcome := do
  let (kept, _) ← model.cache.get (← MonadWorkspace.now) (Cache.key questionKind text)
  match kept with
  | some suggestions => return .ok suggestions
  | none => return .error (.network (unsentText model.endpoint))

end RemoteModel

end GasAdvisor
