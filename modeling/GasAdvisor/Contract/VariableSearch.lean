import GasAdvisor.Contract.StateVariables
import GasAdvisor.Text.Expression
import GasAdvisor.Text.Slice

/-!
# Searching for state variables

State variables by a regular expression and by one pass over its matches.

* `StateVariable.expression` is the expression of a declaration, and `StateVariable.occurrences` are its
  matches in a text, each with the name that it captures.
* `StateVariable.gather?` goes through the matches from left to right. From one match to the next it
  carries how far the code has been scanned, the depth of parentheses there, and the names gathered so
  far (`Gathering`); a match that is passed over moves the scan on as well. The depth is held in a word,
  and there is no answer if one parenthesis more does not fit.
* `StateVariable.TopLevel` says of one match, without those before it, that it stands outside of
  functions and of parentheses. The depth is then that of the code from the beginning, a number without
  bounds (`byteDepth`).

The matches are those of the scanned text, and the depth is that of its code, byte by byte; both have the
same offsets.
-/

namespace GasAdvisor.StateVariable

open Text

/-! ## By a regular expression -/

/-- A type. A mapping ends with a closing parenthesis before the next statement. -/
def typeExpression : Expression :=
  .choice
    [.row [.optional (.literal "u".toList), .literal "int".toList, .many (.one isDecimalDigit)],
     .literal "address".toList, .literal "bool".toList, .literal "string".toList,
     .row [.literal "bytes".toList, .many (.one isDecimalDigit)],
     .row [.literal "mapping".toList, .many (.one isBlank), .one (· = '('), .many (.one inMapping),
       .one (· = ')')]]

/-- A qualifying word and the white space after it. -/
def qualifierExpression : Expression :=
  .row [.choice (qualifiers.map .literal), .many1 isBlank]

/-- A declaration. Its group is the name. -/
def expression : Expression :=
  .row [typeExpression, .many1 isBlank, .many qualifierExpression, .group 1 (.many1 isWord)]

/-- The preferred way of the expression at a place, and its size. It starts at the edge of a word. -/
def wayAt (before : Option Char) (s : List Char) : Option (Way × Nat) := do
  let (_, s) ← Shape.wordEdge before s
  let way ← expression.front? s
  return (way, way.taken.length)

/-- A declaration found in a text: the offset of its type, and the name. -/
structure Match where
  start : Nat
  name : String
  deriving DecidableEq, Repr

/-- The name that a way captures. -/
def captured (way : Way) : List Char :=
  (way.group? 1).getD []

/-- The match of a way that was found at an index of a text. -/
def Match.ofHit (scan : List Char) (hit : Hit Way) : Match where
  start := byteOffset scan hit.index
  name := String.ofList (captured hit.value)

/-- The matches of the expression in a text, from left to right and without overlap. -/
def occurrences (scan : List Char) : List Match :=
  (hits wayAt scan).map (Match.ofHit scan)

/-! ## One pass over the matches -/

/-- The depth of parentheses after one more byte of code, if it fits the word. -/
def byteDepthStep? (depth : Int32) (byte : Nat) : Option Int32 :=
  if byte = 0x28 then if depth = .maxValue then none else some (depth + 1)
  else if byte = 0x29 then some (max (depth - 1) 0)
  else if byte = 0x3b ∨ byte = 0x7b ∨ byte = 0x7d then some 0
  else some depth

/-- What is carried from one match to the next. -/
structure Gathering where
  /-- The offset up to which the code has been scanned. -/
  cursor : Nat
  /-- The depth of parentheses there. -/
  depth : Int32
  names : List String

/-- Before the first match. -/
def Gathering.start : Gathering := ⟨0, 0, []⟩

/-- One more match, if the depth up to there fits. Its name is gathered unless it stands within parentheses
or a function, is reserved, or has been gathered before. -/
def Gathering.step? (code : List Nat) (functions : List Text.Span) (g : Gathering) (m : Match) :
    Option Gathering := do
  let depth ← (stretch code g.cursor (m.start - g.cursor)).foldlM byteDepthStep? g.depth
  return {
    cursor := m.start
    depth
    names :=
      if 0 < depth || functions.any (·.contains m.start) then g.names
      else if reserved.contains m.name || g.names.contains m.name then g.names
      else g.names ++ [m.name] }

/-- The names gathered from matches. -/
def gather? (code : List Nat) (functions : List Text.Span) (found : List Match) :
    Option (List String) :=
  (found.foldlM (Gathering.step? code functions) .start).map (·.names)

/-! ## Each match by itself -/

/-- The depth of parentheses after one more byte of code, as a number without bounds. -/
def byteDepthStep (depth byte : Nat) : Nat :=
  if byte = 0x28 then depth + 1
  else if byte = 0x29 then depth - 1
  else if byte = 0x3b ∨ byte = 0x7b ∨ byte = 0x7d then 0
  else depth

/-- The depth of parentheses at the end of code. -/
def byteDepth (code : List Nat) : Nat :=
  code.foldl byteDepthStep 0

/-- A match starts in no function, and the code before it leaves no parenthesis open. -/
def TopLevel (code : List Nat) (functions : List Text.Span) (m : Match) : Prop :=
  (∀ span ∈ functions, span.contains m.start = false) ∧ byteDepth (code.take m.start) = 0

instance (code : List Nat) (functions : List Text.Span) (m : Match) :
    Decidable (TopLevel code functions m) :=
  inferInstanceAs (Decidable (_ ∧ _))

/-- The names of the matches at top level that are not reserved, as often as they occur. -/
def topLevelNames (code : List Nat) (functions : List Text.Span) (found : List Match) : List String :=
  ((found.filter (TopLevel code functions ·)).map (·.name)).filter (!reserved.contains ·)

/-- The names of a list, each once, in the order in which they first occur there. -/
structure ListsOnce (names found : List String) : Prop where
  nodup : names.Nodup
  mem_iff : ∀ name, name ∈ names ↔ name ∈ found
  ordered : names.Pairwise fun name later => found.idxOf name < found.idxOf later

end GasAdvisor.StateVariable
