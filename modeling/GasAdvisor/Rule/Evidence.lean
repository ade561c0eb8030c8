import GasAdvisor.Text.Lines
import GasAdvisor.Text.Shape

/-!
# Evidence in the text of a function

The shapes that the rules look for, and the questions that they ask of a function's text. All of
these are heuristics on the bare text: they know nothing of scopes, types or comments.
-/

namespace GasAdvisor.Evidence

open Text

/-! ## Shapes -/

/-- Whether a character after an equals sign makes it part of a comparison. -/
def continuesComparison (c : Char) : Bool :=
  c = '=' || c = '!' || c = '<' || c = '>'

/-- What follows the equals sign of an assignment: white space and a character that continues no
comparison. Where none follows the white space, the white space alone will do. -/
def assigned : Shape := fun _ s =>
  let space := s.takeWhile isBlank
  match s.dropWhile isBlank with
  | c :: rest =>
    if !continuesComparison c then some (space ++ [c], rest)
    else if space.isEmpty then none else some (space, c :: rest)
  | [] => if space.isEmpty then none else some (space, [])

/-- An assignment to a name. -/
def plainAssignment : Shape :=
  .seq [.many1 isWord, .blanks, .one (· = '='), assigned]

/-- A name with one word or nothing between brackets. -/
def indexedPlace : Shape :=
  .seq [.many1 isWord, .one (· = '['), .many isWord, .one (· = ']')]

/-- An assignment to a name with an index. -/
def indexedAssignment : Shape :=
  .seq [indexedPlace, .blanks, .one (· = '=')]

/-- An assignment. -/
def assignment : Shape :=
  .choice [plainAssignment, indexedAssignment]

/-- An access by an index made of words. -/
def indexedAccess : Shape :=
  .seq [.many1 isWord, .one (· = '['), .many (fun c => isWord c || isBlank c), .one (· = ']')]

/-- An assignment of the value that a variable has anyway. -/
def defaultInit : Shape :=
  .seq [.wordEdge, .many1 isWord, .blanks, .one (· = '='), .blanks,
    .choice
      [.seq [.one (· = '0'), .one (fun c => c != 'x' && !isWord c)],
       .literal "false".toList, .literal "\"\"".toList]]

/-- The head of a counting loop. -/
def forHead : Shape :=
  .seq [.literal "for".toList, .blanks, .one (· = '(')]

/-- A counting loop with another one in it, before any closing brace. -/
def nestedLoop : Shape := fun before s => do
  let (matched, rest) ← forHead before s
  if forHead.occurs (rest.takeWhile (· != '}')) then some (matched, rest) else none

/-- A call of `require`. -/
def requireCall : Shape :=
  .seq [.literal "require".toList, .blanks, .one (· = '(')]

/-- A further branch of a conditional. -/
def elseIf : Shape :=
  .seq [.wordEdge, .literal "else".toList, .many1 isBlank, .literal "if".toList, .wordEdge]

/-- Anything that changes the state or may revert. -/
def stateChange : Shape :=
  .choice
    [.seq [.wordEdge, assignment],
     .seq [.literal "emit".toList, .many1 isBlank, .many1 isWord],
     .literal ".transfer(".toList, .literal ".call(".toList, .literal ".delegatecall(".toList,
     .literal ".send(".toList, .literal "selfdestruct(".toList, .literal "require(".toList,
     .literal "assert(".toList, .literal "revert(".toList,
     .seq [.literal "delete".toList, .many1 isBlank, .many1 isWord],
     .literal ".push(".toList, .literal ".pop(".toList]

/-- Anything that reads the environment, the state or a hash. -/
def stateRead : Shape :=
  .choice
    [.seq [.wordEdge, .literal "msg.".toList], .seq [.wordEdge, .literal "tx.".toList],
     .seq [.wordEdge, .literal "block.".toList],
     .seq [.wordEdge, .literal "address(this)".toList],
     .seq [.wordEdge, .literal "balance".toList],
     .seq [.wordEdge, indexedPlace], .seq [.wordEdge, .many1 isWord, .literal ".call".toList],
     .literal "keccak256(".toList, .literal "ecrecover(".toList]

/-- A name followed by an opening parenthesis. -/
def callOf (name : List Char) : Shape :=
  .seq [.wordEdge, .literal name, .blanks, .one (· = '(')]

/-! ## Questions -/

/-- Whether a text assigns, emits, transfers, calls, may revert, deletes or resizes an array. -/
def changesState (code : List Char) : Bool :=
  stateChange.occurs code

/-- Whether a text reads no environment, balance, mapping or hash. -/
def isReferentiallyPure (code : List Char) : Bool :=
  !stateRead.occurs code

/-- Whether a text has the name followed by a parenthesis more than once, the declaration itself
being one, when only some names can be searched for (`searchable`). Any other one counts as not called. -/
def isCalledInternallyBy (searchable : List Char → Bool) (code name : List Char) : Bool :=
  !name.isEmpty && searchable name && 1 < (callOf name).count code

/-- Whether a text has the name followed by a parenthesis more than once, when every name can be searched
for. -/
def isCalledInternally (code name : List Char) : Bool :=
  isCalledInternallyBy (fun _ => true) code name

/-- A statement that assigns a literal. -/
structure LiteralAssignment where
  name : List Char
  /-- All text after the statement. -/
  rest : List Char

/-- The assignment of a literal at a place, and its size. -/
def literalAssignmentAt (before : Option Char) (s : List Char) :
    Option (LiteralAssignment × Nat) := do
  let (_, s) ← Shape.wordEdge before s
  let (name, afterName) ← Shape.many1 isWord before s
  let (sign, afterSign) ← Shape.seq [.blanks, .one (· = '='), .blanks] none afterName
  match afterSign with
  | c :: value =>
    if isDecimalDigit c || c = '"' || c = '\'' then
      match value.dropWhile (· != ';') with
      | ';' :: rest =>
        let size := name.length + sign.length + (value.takeWhile (· != ';')).length + 2
        return (⟨name, rest⟩, size)
      | _ => none
    else none
  | [] => none

/-- Whether a character belongs to a word that is searched for. -/
def isSearchWord (c : Char) : Bool :=
  isAlphanumeric c || c = '_'

/-- Whether a word stands in a text that follows the character `before`, with no character of a word
beside it. The search goes on behind each occurrence, whether or not it stood alone. -/
def containsWordFrom (word : List Char) : Option Char → (skip : Nat) → List Char → Bool
  | _, _, [] => false
  | _, skip + 1, c :: rest => containsWordFrom word (some c) skip rest
  | before, 0, c :: rest =>
    if word.isPrefixOf (c :: rest) then
      let after := ((c :: rest).drop word.length).head?
      (!before.any isSearchWord && !after.any isSearchWord) ||
        containsWordFrom word (some c) (word.length - 1) rest
    else containsWordFrom word (some c) 0 rest

/-- Whether a word stands alone somewhere in a text. -/
def containsWord (text word : List Char) : Bool :=
  containsWordFrom word none 0 text

/-- Whether a name is assigned a literal and mentioned again on the rest of the line. -/
def hasReusedLiteral (code : List Char) : Bool :=
  (hits literalAssignmentAt code).any fun hit =>
    containsWord (hit.value.rest.takeWhile (· != '\n')) hit.value.name

end GasAdvisor.Evidence
