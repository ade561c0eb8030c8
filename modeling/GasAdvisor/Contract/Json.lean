import GasAdvisor.Contract.Basic
import GasAdvisor.Json.Record

/-!
# Contracts in JSON

Each record of a contract has a view as JSON, its fields in the order of their declaration, and a
decoder that reads such views.

The decoders of functions and of what they hold take the test for the blank that may stand beside a
keyword in an object: a function on its own admits only null, and one whose fields stand among those
of a larger record an empty object too.
-/

namespace GasAdvisor

namespace Visibility

def toJson (v : Visibility) : Json := .string v.keyword

def ofJson? (isBlank : Json → Bool) : Json → Option Visibility := Json.oneOf? isBlank all keyword

end Visibility

namespace Mutability

def toJson (m : Mutability) : Json := .string m.keyword

def ofJson? (isBlank : Json → Bool) : Json → Option Mutability := Json.oneOf? isBlank all keyword

end Mutability

namespace PatternKind

def toJson (k : PatternKind) : Json := .string k.keyword

def ofJson? (isBlank : Json → Bool) : Json → Option PatternKind := Json.oneOf? isBlank all keyword

end PatternKind

namespace Parameter

def toJson (p : Parameter) : Json :=
  .object [("type", .string p.type), ("name", .string p.name)]

def ofJson? (json : Json) : Option Parameter := do
  match ← json.fields ["type", "name"] with
  | [type, name] => return ⟨← type.required Json.string?, ← name.required Json.string?⟩
  | _ => none

end Parameter

namespace Pattern

def toJson (p : Pattern) : Json :=
  .object
    [("type", p.kind.toJson), ("description", .string p.description),
     ("estimated_gas", .ofNat p.estimatedGas), ("suggestion", .string p.suggestion),
     ("occurrences", .ofNat p.occurrences)]

def ofJson? (isBlank : Json → Bool) (json : Json) : Option Pattern := do
  match ← json.fields ["type", "description", "estimated_gas", "suggestion", "occurrences"] with
  | [kind, description, estimatedGas, suggestion, occurrences] =>
    return {
      kind := ← kind.required (PatternKind.ofJson? isBlank)
      description := ← description.required Json.string?
      estimatedGas := ← estimatedGas.required Json.nat64?
      suggestion := ← suggestion.required Json.string?
      occurrences := ← occurrences.required Json.nat64? }
  | _ => none

end Pattern

namespace Function

/-- The names of the fields of a function. -/
def fieldNames : List String :=
  ["name", "visibility", "state_mutability", "parameters", "returns", "modifiers", "patterns",
   "source_code", "start_line", "complexity_score"]

/-- The members of the view of a function. -/
def toMembers (f : Function) : List (String × Json) :=
  [("name", .string f.name), ("visibility", f.visibility.toJson),
   ("state_mutability", f.mutability.toJson),
   ("parameters", .ofList Parameter.toJson f.parameters),
   ("returns", .ofOption .string f.returns), ("modifiers", .ofList .string f.modifiers),
   ("patterns", .ofList Pattern.toJson f.patterns), ("source_code", .string f.sourceCode),
   ("start_line", .ofNat f.startLine), ("complexity_score", .ofNat f.complexity)]

def toJson (f : Function) : Json :=
  .object f.toMembers

/-- The function with the given fields. -/
def ofFields? (isBlank : Json → Bool) : List Json.Field → Option Function
  | [name, visibility, mutability, parameters, returns, modifiers, patterns, sourceCode, startLine,
      complexity] => do
    return {
      name := ← name.required Json.string?
      visibility := ← visibility.required (Visibility.ofJson? isBlank)
      mutability := ← mutability.required (Mutability.ofJson? isBlank)
      parameters := ← parameters.required (Json.list? Parameter.ofJson?)
      returns := ← returns.optional Json.string?
      modifiers := ← modifiers.required (Json.list? Json.string?)
      patterns := ← patterns.required (Json.list? (Pattern.ofJson? isBlank))
      sourceCode := ← sourceCode.required Json.string?
      startLine := ← startLine.required Json.nat64?
      complexity := ← complexity.required Json.nat32? }
  | _ => none

def ofJson? (json : Json) : Option Function := do
  ofFields? Json.isNull (← json.fields fieldNames)

end Function

namespace Contract

def toJson (c : Contract) : Json :=
  .object
    [("name", .string c.name), ("functions", .ofList Function.toJson c.functions),
     ("state_variables", .ofList .string c.stateVariables), ("total_lines", .ofNat c.totalLines)]

def ofJson? (json : Json) : Option Contract := do
  match ← json.fields ["name", "functions", "state_variables", "total_lines"] with
  | [name, functions, stateVariables, totalLines] =>
    return {
      name := ← name.required Json.string?
      functions := ← functions.required (Json.list? Function.ofJson?)
      stateVariables := ← stateVariables.required (Json.list? Json.string?)
      totalLines := ← totalLines.required Json.nat64? }
  | _ => none

end Contract

end GasAdvisor
