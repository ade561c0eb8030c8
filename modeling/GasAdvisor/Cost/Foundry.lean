import GasAdvisor.Cost.Amount
import GasAdvisor.Text.Shape

/-!
# Reports of Foundry

A snapshot has a line `Contract:testName() (gas: N)` for each test, a test run a line
`[PASS] testName() (gas: N)`. In both the cost of a test counts for the function whose name follows
`test`, after an optional underscore. A line without the form, or with an amount that is none, says
nothing.
-/

namespace GasAdvisor.Foundry

open Text

/-- The name after `test`: the word, less an underscore at its start if more than that follows. -/
def testedName (word : List Char) : List Char :=
  match word with
  | '_' :: c :: rest => c :: rest
  | word => word

/-- The name and the digits of a line of a snapshot, at a place. -/
def snapshotAt (_ : Option Char) (s : List Char) : Option (List Char × List Char) := do
  let (_, s) ← Shape.word? s
  let s ← Shape.skip (.one (· = ':')) s
  let s := (Shape.skip (.one (· = ':')) s).getD s
  let s ← Shape.skip (.literal "test".toList) s
  let (word, s) ← Shape.word? s
  let s ← Shape.skip
    (.seq [.literal "()".toList, .many1 isBlank, .literal "(gas:".toList, .blanks]) s
  let (ds, s) ← Shape.digits? s
  let _ ← Shape.skip (.one (· = ')')) s
  return (testedName word, ds)

/-- The cost that a line of a snapshot states. -/
def ofSnapshotLine? (line : List Char) : Option (String × Nat) := do
  let (name, ds) ← first? snapshotAt line
  return (String.ofList (lower name), ← Gas.ofDigits? ds)

/-- The costs of a snapshot. -/
def ofSnapshot (content : String) : Costs :=
  .ofList ((lines content.toList).filterMap ofSnapshotLine?)

/-- The digits of an amount of gas, at a place. -/
def amountAt (_ : Option Char) (s : List Char) : Option (List Char) := do
  let s ← Shape.skip (.seq [.literal "gas:".toList, .blanks]) s
  return (← Shape.digits? s).1

/-- The name of a test in any case, at a place. -/
def testAt (_ : Option Char) (s : List Char) : Option (List Char) := do
  let s ← Shape.skip (.caseless "test".toList) s
  return testedName (← Shape.word? s).1

/-- The cost that a line of a test run states. -/
def ofRunLine? (line : List Char) : Option (String × Nat) := do
  if !mentions "gas:".toList line || !mentions "test".toList line then failure
  let gas ← Gas.ofDigits? (← first? amountAt line)
  return (String.ofList (lower (← first? testAt line)), gas)

/-- The costs that a test run states. -/
def ofRun (output : String) : Costs :=
  .ofList ((lines output.toList).filterMap ofRunLine?)

end GasAdvisor.Foundry
