import GasAdvisor.Suggestion.Basic
import GasAdvisor.Text.LetterCase

/-!
# Costs

The measured gas of functions, held by the lower case of their names. A cost of zero means that
nothing was measured. Gas is counted in 64 bits: sums stop at the largest number (`Gas.total`).
-/

namespace GasAdvisor

open Text

/-- The lower case of a name. -/
def lowerName (name : String) : String :=
  String.ofList (lower name.toList)

namespace Gas

/-- The largest amount of gas. -/
def limit : Nat := 1 <<< 64 - 1

/-- The sum of two amounts, or the largest amount if the sum is larger. -/
def plus (m n : Nat) : Nat :=
  min limit (m + n)

/-- The sum of amounts, or the largest amount if the sum is larger. -/
def total (amounts : List Nat) : Nat :=
  amounts.foldl plus 0

end Gas

/-- Measured costs by name, each name once. -/
structure Costs where
  entries : List (String × Nat)
  deriving DecidableEq, Repr

namespace Costs

/-- No costs. -/
def empty : Costs := ⟨[]⟩

/-- Whether there are no costs. -/
def isEmpty (c : Costs) : Bool := c.entries.isEmpty

/-- The cost held under a name. -/
def get? (c : Costs) (name : String) : Option Nat :=
  c.entries.lookup name

/-- The costs with one more held under a name, in place of any other held there. -/
def insert (c : Costs) (name : String) (gas : Nat) : Costs :=
  ⟨c.entries.filter (·.1 ≠ name) ++ [(name, gas)]⟩

/-- The costs of a list of names, a later one in place of an earlier one. -/
def ofList (entries : List (String × Nat)) : Costs :=
  entries.foldl (fun c (name, gas) => c.insert name gas) empty

/-- The cost of a function, zero if none was measured. -/
def ofFunction (c : Costs) (name : String) : Nat :=
  (c.get? (lowerName name)).getD 0

end Costs

/-- How expensive a function is. -/
inductive GasRank where
  | unknown
  | low
  | medium
  | high
  deriving DecidableEq, Repr

namespace GasRank

/-- All ranks. -/
def all : List GasRank := [.unknown, .low, .medium, .high]

/-- The name of a rank. -/
def keyword : GasRank → String
  | .unknown => "unknown"
  | .low => "low"
  | .medium => "medium"
  | .high => "high"

/-- The amount of gas below which a cost is low. -/
def lowCeiling : Nat := 30000

/-- The amount of gas below which a cost is medium. -/
def mediumCeiling : Nat := 100000

/-- The rank of an amount of gas. -/
def ofGas (gas : Nat) : GasRank :=
  if gas = 0 then .unknown
  else if gas < lowCeiling then .low
  else if gas < mediumCeiling then .medium
  else .high

end GasRank

namespace Impact

/-- The share of a measured cost that a suggestion saves, in percent. -/
def percent : Impact → Nat
  | .high => 15
  | .medium => 8
  | .low => 3

/-- What a suggestion saves where nothing was measured. -/
def flatSaving : Impact → Nat
  | .high => 15000
  | .medium => 5000
  | .low => 1000

/-- What a suggestion saves: a share of the measured cost, rounded down, or a flat amount. -/
def saving (i : Impact) (gas : Nat) : Nat :=
  if 0 < gas then gas * i.percent / 100 else i.flatSaving

end Impact

/-- What following all suggestions for a function saves. -/
def potentialSavings (suggestions : List Suggestion) (gas : Nat) : Nat :=
  Gas.total (suggestions.map fun s => s.impact.saving gas)

end GasAdvisor
