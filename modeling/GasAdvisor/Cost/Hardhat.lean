import GasAdvisor.Cost.Amount
import GasAdvisor.Json.Reader
import GasAdvisor.Text.Shape

/-!
# Reports of Hardhat

The gas reporter writes a JSON report in one of two forms or a table, and tests print lines
`name gas used: N`.

* In a JSON report the members `info.methods.<contract>.<method>.avg` and then
  `methods.<method>.gasUsed` are visited, the members of each object in ascending order of their
  names; a later cost of a name replaces an earlier one.
* A row of a table is `|  Contract  ·  method  ·  min  ·  max  ·  average  ·`.
-/

namespace GasAdvisor.Hardhat

open Text

/-- The members of an object, none for any other value. -/
def members : Json → List (String × Json)
  | .object ms => ms
  | _ => []

/-- The value of a member, null where there is none. -/
def member (name : String) (value : Json) : Json :=
  (value.get? name).getD .null

/-- The costs of methods, each stated by one of its members. -/
def methodCosts (stat : String) (methods : Json) : List (String × Nat) :=
  (members methods).filterMap fun (method, stats) =>
    (Gas.ofJson? (member stat stats)).map (lowerName method, ·)

/-- The costs of a JSON report. -/
def ofJsonReport (report : Json) : Costs :=
  let report := report.normalize
  let nested := (members (member "methods" (member "info" report))).flatMap
    fun (_, methods) => methodCosts "avg" methods
  .ofList (nested ++ methodCosts "gasUsed" (member "methods" report))

/-- What separates the columns of a table. -/
def columnMark : Char := '·'

/-- White space and a column mark. -/
def columnEnd : Shape :=
  .seq [.blanks, .one (· = columnMark)]

/-- A column of any content. -/
def anyColumn : Shape :=
  .seq [.many (· != columnMark), .one (· = columnMark)]

/-- The method and the digits of the average of a row of a table, at a place. -/
def rowAt (_ : Option Char) (s : List Char) : Option (List Char × List Char) := do
  let s ← Shape.skip (.seq [.one (· = '|'), .blanks, .many1 isWord, columnEnd, .blanks]) s
  let (method, s) ← Shape.word? s
  let s ← Shape.skip (.seq [columnEnd, anyColumn, anyColumn, .blanks]) s
  let (ds, s) ← Shape.digits? s
  let _ ← Shape.skip columnEnd s
  return (method, ds)

/-- The cost that a line of a table states. -/
def ofTableLine? (line : List Char) : Option (String × Nat) := do
  let (method, ds) ← first? rowAt line
  let gas ← Gas.ofDigits? ds
  return (String.ofList (lower method), ← Gas.positive? gas)

/-- The costs of a table. -/
def ofTable (content : String) : Costs :=
  .ofList ((lines content.toList).filterMap ofTableLine?)

/-- The costs of a report: of a JSON report if the text starts like one and is one, or else of a
table. -/
def ofReport (content : String) : Costs :=
  match trimLeft content.toList with
  | '{' :: _ | '[' :: _ =>
    match Json.parse? content.toList with
    | some report => ofJsonReport report
    | none => ofTable content
  | _ => ofTable content

/-- The name and the digits of a line that a test prints, at a place. -/
def gasUsedAt (_ : Option Char) (s : List Char) : Option (List Char × List Char) := do
  let (name, s) ← Shape.word? s
  let s ← Shape.skip (.seq [.many1 isBlank, .caseless "gas used:".toList, .blanks]) s
  return (name, (← Shape.digits? s).1)

/-- The cost that a line of a test run states. -/
def ofRunLine? (line : List Char) : Option (String × Nat) := do
  let (name, ds) ← first? gasUsedAt line
  return (String.ofList (lower name), ← Gas.ofDigits? ds)

/-- The costs that a test run states. -/
def ofRun (output : String) : Costs :=
  .ofList ((lines output.toList).filterMap ofRunLine?)

end GasAdvisor.Hardhat
