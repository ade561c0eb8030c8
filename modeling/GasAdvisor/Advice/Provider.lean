import GasAdvisor.Suggestion.Basic

/-!
# Providers of suggestions

A provider is asked once for each function and answers with suggestions or fails. Time is part of
what a provider is: a reply takes so many milliseconds, and one that takes longer than the analysis
waits is lost (`Reply.within`).

`Provider.canned` answers from a table by the name of the function.
-/

namespace GasAdvisor

/-- Why a provider has no answer. -/
inductive ProviderError where
  /-- The endpoint of a model refused the request. -/
  | api (status : Nat) (reason : String)
  /-- The endpoint answered with something else than an answer of a model. -/
  | invalidResponse (reason : String)
  /-- The exchange with the endpoint failed. -/
  | network (reason : String)
  | timeout (seconds : Nat)
  | unavailable (reason : String)
  deriving DecidableEq, Repr

namespace ProviderError

/-- The text of an error. -/
def message : ProviderError → String
  | .api status reason => "API error (" ++ toString status ++ "): " ++ reason
  | .invalidResponse reason => "Invalid response format: " ++ reason
  | .network reason => "Network error: " ++ reason
  | .timeout seconds => "Timeout after " ++ toString seconds ++ " seconds"
  | .unavailable reason => "Provider unavailable: " ++ reason

end ProviderError

/-- The answer to one question: suggestions, or a failure. -/
abbrev Outcome := Except ProviderError (List Suggestion)

/-- The milliseconds that the answer to one question takes, and the answer. -/
structure Reply where
  delay : Nat
  answer : Outcome

/-- What comes of waiting for a reply so many milliseconds. -/
def Reply.within (patience : Nat) (reply : Reply) : Outcome :=
  if reply.delay ≤ patience then reply.answer else .error (.timeout (patience / 1000))

/-- A provider of suggestions: for the name and the text of a function, the milliseconds that the
answer takes and the answer. -/
structure Provider where
  delay : (name text : String) → Nat
  answer : (name text : String) → Outcome

namespace Provider

/-- What comes of asking about a function and waiting so many milliseconds. -/
def ask (provider : Provider) (patience : Nat) (name text : String) : Outcome :=
  Reply.within patience ⟨provider.delay name text, provider.answer name text⟩

/-- The answer about a function that the table of a canned provider does not know. -/
def cannedDefault : List Suggestion :=
  [.generated "Pack related storage variables into a single slot." 0.8 .high]

/-- A provider that answers from a table after a delay. -/
def canned (responses : List (String × List Suggestion)) (delay : Nat) : Provider where
  delay := fun _ _ => delay
  answer := fun name _ => .ok ((responses.lookup name).getD cannedDefault)

/-- A provider that always fails. -/
def failing : Provider where
  delay := fun _ _ => 0
  answer := fun _ _ => .error (.unavailable "mock provider failure")

/-- The name that canned providers go by. -/
def cannedName : String := "mock"

end Provider

end GasAdvisor
