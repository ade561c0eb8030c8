import GasAdvisor.Decimal.Binary

/-!
# Suggestions

A suggestion says what to change, how sure that is and how much it matters. Suggestions are ranked
by `Suggestion.score`, the weight of the impact times the confidence; `rankKey` turns a score into an
integer that orders all floating-point numbers, the two zeros and what is not a number included.
-/

namespace GasAdvisor

/-- What a suggestion is about. -/
inductive SuggestionKind where
  | storage
  | loop
  | visibility
  | mutability
  | arithmetic
  | string
  | array
  | types
  | constants
  | variables
  | controlFlow
  | security
  | events
  | patterns
  | assembly
  | aiGenerated
  deriving DecidableEq, Repr

/-- How much a suggestion matters. -/
inductive Impact where
  | high
  | medium
  | low
  deriving DecidableEq, Repr

/-- Where a suggestion comes from: a rule, or a language model. -/
inductive Origin where
  | static
  | llm
  deriving DecidableEq, Repr

namespace SuggestionKind

/-- All kinds of suggestions. -/
def all : List SuggestionKind :=
  [.storage, .loop, .visibility, .mutability, .arithmetic, .string, .array, .types, .constants,
   .variables, .controlFlow, .security, .events, .patterns, .assembly, .aiGenerated]

/-- The name of a kind of suggestion. -/
def keyword : SuggestionKind → String
  | .storage => "storage"
  | .loop => "loop"
  | .visibility => "visibility"
  | .mutability => "mutability"
  | .arithmetic => "arithmetic"
  | .string => "string"
  | .array => "array"
  | .types => "types"
  | .constants => "constants"
  | .variables => "variables"
  | .controlFlow => "control_flow"
  | .security => "security"
  | .events => "events"
  | .patterns => "patterns"
  | .assembly => "assembly"
  | .aiGenerated => "ai_generated"

end SuggestionKind

namespace Impact

/-- All impacts. -/
def all : List Impact := [.high, .medium, .low]

/-- The name of an impact. -/
def keyword : Impact → String
  | .high => "high"
  | .medium => "medium"
  | .low => "low"

/-- The factor of an impact in the score. -/
def weight : Impact → Float
  | .high => 3
  | .medium => 2
  | .low => 1

end Impact

namespace Origin

/-- All origins. -/
def all : List Origin := [.static, .llm]

/-- The name of an origin. -/
def keyword : Origin → String
  | .static => "static"
  | .llm => "llm"

end Origin

/-- A recommendation for one function. -/
structure Suggestion where
  kind : SuggestionKind
  message : String
  confidence : Float
  impact : Impact
  origin : Origin
  /-- The gas that following the suggestion saves, zero where there is no estimate. -/
  estimatedSaving : Nat
  /-- The rule that made the suggestion. -/
  rule : Option String
  deriving DecidableEq

/-- A floating-point number as an integer, so that the integers are ordered as the numbers are. The
negative numbers come before the positive ones, by their bits in reverse. What is not a number is one
datum, without a sign and a payload, and comes last. -/
def rankKey (x : Float) : Int :=
  let bits := x.toBits.toNat
  if bits < 1 <<< 63 then bits else 1 <<< 63 - 1 - bits

namespace Suggestion

/-- A suggestion of a language model. -/
def generated (message : String) (confidence : Float) (impact : Impact) : Suggestion where
  kind := .aiGenerated
  message := message
  confidence := confidence
  impact := impact
  origin := .llm
  estimatedSaving := 0
  rule := none

/-- What suggestions are ranked by. -/
def score (s : Suggestion) : Float :=
  s.impact.weight * s.confidence

end Suggestion

end GasAdvisor
