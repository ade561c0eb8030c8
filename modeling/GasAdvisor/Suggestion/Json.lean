import GasAdvisor.Json.Record
import GasAdvisor.Json.RecordReader
import GasAdvisor.Suggestion.Basic

/-!
# Suggestions in JSON

The view of a suggestion leaves out the rule where there is none. Its decoder takes a missing saving
for zero and a missing rule for none.
-/

namespace GasAdvisor

namespace SuggestionKind

def toJson (k : SuggestionKind) : Json := .string k.keyword

def ofJson? : Json → Option SuggestionKind := Json.oneOf? Json.isNull all keyword

end SuggestionKind

namespace Impact

def toJson (i : Impact) : Json := .string i.keyword

def ofJson? : Json → Option Impact := Json.oneOf? Json.isNull all keyword

end Impact

namespace Origin

def toJson (o : Origin) : Json := .string o.keyword

def ofJson? : Json → Option Origin := Json.oneOf? Json.isNull all keyword

end Origin

namespace Suggestion

def toJson (s : Suggestion) : Json :=
  .object <|
    [("type", s.kind.toJson), ("message", .string s.message), ("confidence", .double s.confidence),
     ("impact", s.impact.toJson), ("source", s.origin.toJson),
     ("estimated_saving", .ofNat s.estimatedSaving)] ++
    match s.rule with
    | none => []
    | some rule => [("rule", .string rule)]

/-- The names of the fields. -/
def fieldNames : List String :=
  ["type", "message", "confidence", "impact", "source", "estimated_saving", "rule"]

def ofJson? (json : Json) : Option Suggestion := do
  match ← json.fields fieldNames with
  | [kind, message, confidence, impact, origin, estimatedSaving, rule] =>
    return {
      kind := ← kind.required SuggestionKind.ofJson?
      message := ← message.required Json.string?
      confidence := ← confidence.required Json.float?
      impact := ← impact.required Impact.ofJson?
      origin := ← origin.required Origin.ofJson?
      estimatedSaving := ← estimatedSaving.orDefault 0 Json.nat64?
      rule := ← rule.optionalOrDefault Json.string? }
  | _ => none

/-- The record of a suggestion at the front of a text. -/
def readRecord (limit : Nat) : Json.ValueReader :=
  Json.readRecord limit (fieldNames.map (·, Json.readValue limit Json.maxDepth))

end Suggestion

end GasAdvisor
