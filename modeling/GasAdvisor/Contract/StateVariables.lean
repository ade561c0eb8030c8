import GasAdvisor.Contract.Masking
import GasAdvisor.Contract.Parameters
import GasAdvisor.Text.Shape

/-!
# State variables

A state variable is declared by a type, qualifying words and a name, outside of functions and
outside of parentheses. The depth of parentheses is counted on the code alone; a semicolon or a
brace brings it back to zero.

The depth is a number without bounds here. The search that holds it in a word of 32 bits, and has no answer
where that is too small, is `StateVariable.gather?`; where it has one, it finds the same names.
-/

namespace GasAdvisor.StateVariable

open Text

/-- Words that may stand between the type and the name. -/
def qualifiers : List (List Char) :=
  ["public".toList, "private".toList, "internal".toList, "constant".toList, "immutable".toList,
   "payable".toList, "override".toList]

/-- A qualifying word and the white space after it. -/
def qualifier : Shape :=
  .seq [.oneOf qualifiers, .many1 isBlank]

/-- The name after at most `limit` qualifying words, and the text after it. Where no name follows
the last qualifying word, that word is itself the name. -/
def nameUpTo : (limit : Nat) → List Char → Option (List Char × List Char)
  | 0, _ => none
  | limit + 1, s =>
    let name := s.takeWhile isWord
    let itself := if name.isEmpty then none else some (name, s.dropWhile isWord)
    match qualifier none s with
    | none => itself
    | some (_, rest) => (nameUpTo limit rest).or itself

/-- White space and then the name of the variable, and the text after it. -/
def afterType (s : List Char) : Option (List Char × List Char) :=
  match s with
  | [] => none
  | c :: rest =>
    if isBlank c then nameUpTo (rest.length + 1) (rest.dropWhile isBlank) else none

/-- Whether a character may stand between the parentheses of a mapping. -/
def inMapping (c : Char) : Bool :=
  c != ';' && c != '{' && c != '}'

/-- The name after the last closing parenthesis that one follows, among those before the next
statement. -/
def afterMapping : List Char → Option (List Char × List Char)
  | [] => none
  | c :: rest =>
    if inMapping c then
      match afterMapping rest with
      | some found => some found
      | none => if c = ')' then afterType rest else none
    else none

/-- An elementary type. -/
def elementary : Shape :=
  .choice
    [.seq [.literal "uint".toList, .many isDecimalDigit],
     .seq [.literal "int".toList, .many isDecimalDigit],
     .literal "address".toList, .literal "bool".toList, .literal "string".toList,
     .seq [.literal "bytes".toList, .many isDecimalDigit]]

/-- The opening of a mapping type. -/
def mappingHead : Shape :=
  .seq [.literal "mapping".toList, .blanks, .one (· = '(')]

/-- The name declared at a place, and the text after it. -/
def declaredAt (before : Option Char) (s : List Char) : Option (List Char × List Char) := do
  let (_, s) ← Shape.wordEdge before s
  match elementary none s with
  | some (_, rest) => afterType rest
  | none =>
    let (_, rest) ← mappingHead none s
    afterMapping rest

/-- The names declared anywhere in a text, each with the index of its type. -/
def declared (scan : List Char) : List (Hit (List Char)) :=
  hits (fun before s =>
    (declaredAt before s).map fun (name, rest) => (name, s.length - rest.length)) scan

/-- The depth of parentheses after one more character of code, as a number without bounds. -/
def depthStep (depth : Nat) (c : Char) : Nat :=
  if c = '(' then depth + 1
  else if c = ')' then depth - 1
  else if c = ';' ∨ c = '{' ∨ c = '}' then 0
  else depth

/-- The depth of parentheses at the end of code. -/
def depth (code : List Char) : Nat :=
  code.foldl depthStep 0

/-- The names of the state variables of a text, each once, in order of appearance. The functions of
the text cover the index ranges `functions`, the start of a range included and its end not. -/
def names (scan : List Char) (functions : List (Nat × Nat)) : List String :=
  let code := codeChars scan
  let outside (hit : Hit (List Char)) : Bool :=
    depth (code.take hit.index) = 0 &&
      functions.all fun (start, stop) => hit.index < start || stop ≤ hit.index
  let candidates := ((declared scan).filter outside).map fun hit => String.ofList hit.value
  (candidates.filter (!reserved.contains ·)).eraseDups

end GasAdvisor.StateVariable
