import GasAdvisor.Cost.Basic
import GasAdvisor.Json.Basic
import GasAdvisor.Text.Lines

/-!
# Amounts in reports

Reports state gas as decimal digits. Only digits of ASCII make an amount, and only below `2 ^ 64`.
-/

namespace GasAdvisor.Gas

open Text

/-- The number that digits of ASCII write. -/
def ofDigits? (ds : List Char) : Option Nat :=
  if ds.isEmpty || !ds.all Char.isDigit then none
  else
    let n := ds.foldl (fun n d => n * 10 + (d.toNat - '0'.toNat)) 0
    if n ≤ limit then some n else none

/-- The number that a text writes, perhaps with a plus before it. -/
def ofText? (text : List Char) : Option Nat :=
  match text with
  | '+' :: ds => ofDigits? ds
  | ds => ofDigits? ds

/-- An amount that says that something was measured. -/
def positive? (gas : Nat) : Option Nat :=
  if 0 < gas then some gas else none

/-- The amount that a JSON value states: a number, rounded to an integer, or a text. -/
def ofJson? : Json → Option Nat
  | .integer (.ofNat n) => positive? n
  | .double x => positive? (Decimal.roundToNat limit x)
  | .string s => (ofText? (trim s.toList)).bind positive?
  | _ => none

end GasAdvisor.Gas
