import GasAdvisor.Json.Reader
import GasAdvisor.Json.Writer
import GasAdvisor.Suggestion.Json

/-!
# Entries of a cache

Suggestions with the time at which they were put into a cache. An entry is fresh for so many
milliseconds after its time and at its time, but not before it. Its text is a record in JSON, in which
members of other names may stand.
-/

namespace GasAdvisor

/-- Suggestions and the time they were kept at, in milliseconds since 1970. -/
structure CacheEntry where
  timestamp : Int
  suggestions : List Suggestion
  deriving DecidableEq

namespace CacheEntry

/-- A number moved into the range of 64 bits with a sign. -/
def clamp64 (n : Int) : Int :=
  max (-(1 <<< 63)) (min (1 <<< 63 - 1) n)

/-- The age of an entry at a time, in 64 bits. -/
def age (entry : CacheEntry) (now : Int) : Int :=
  clamp64 (now - entry.timestamp)

/-- Whether an entry is to be used at a time. -/
def isFresh (lifetime : Nat) (now : Int) (entry : CacheEntry) : Bool :=
  0 ≤ entry.age now && entry.age now < lifetime

/-- A time of 64 bits. -/
def time? : Json → Option Int
  | .integer n => if clamp64 n = n then some n else none
  | _ => none

def toJson (entry : CacheEntry) : Json :=
  .object
    [("timestamp", .integer entry.timestamp),
     ("suggestions", .ofList Suggestion.toJson entry.suggestions)]

def ofJson? (json : Json) : Option CacheEntry := do
  match ← json.fields ["timestamp", "suggestions"] with
  | [timestamp, suggestions] =>
    return ⟨← timestamp.required time?, ← suggestions.required (Json.list? Suggestion.ofJson?)⟩
  | _ => none

/-- The text of an entry. -/
def text (entry : CacheEntry) : String :=
  String.ofList entry.toJson.compact

/-- The record of an entry at the front of a text. -/
def readRecord (limit : Nat) : Json.ValueReader :=
  Json.readRecord limit
    [("timestamp", Json.readValue limit Json.maxDepth),
     ("suggestions", Json.readList limit (Suggestion.readRecord limit))]

/-- The entry that a text holds. -/
def ofText? (text : String) : Option CacheEntry :=
  (Json.parseWith? readRecord text.toList).bind ofJson?

end CacheEntry

end GasAdvisor
