import GasAdvisor.Contract.Basic
import GasAdvisor.Text.Shape

/-!
# Patterns

The evidence of cost that is found in the text of a function: loops, writes to storage, external
calls and validations. Loops and calls are present or absent; writes and validations are counted,
and their estimated gas grows with the count.
-/

namespace GasAdvisor.Pattern

open Text

/-- The estimated gas of a loop. -/
def loopGas : Nat := 5000

/-- The estimated gas of one write to storage. -/
def storageWriteGas : Nat := 20000

/-- The estimated gas of an external call. -/
def externalCallGas : Nat := 2300

/-- The estimated gas of one validation. -/
def validationGas : Nat := 500

/-! ## Shapes -/

/-- The head of a loop. -/
def loopHead : Shape :=
  .seq [.wordEdge, .oneOf ["for".toList, "while".toList], .blanks, .one (· = '(')]

/-- A row of subscripts at the front of a text, with one level of brackets inside each, and the
rest; `depth` brackets are open. No line ends inside a subscript. -/
def subscripts : (depth : Nat) → List Char → Option (List Char × List Char)
  | 0, [] => some ([], [])
  | _ + 1, [] => none
  | 0, c :: rest =>
    if c = '[' then (subscripts 1 rest).map fun (matched, rest') => (c :: matched, rest')
    else some ([], c :: rest)
  | depth + 1, c :: rest =>
    if c = '\n' then none
    else if c = '[' then
      if depth = 0 then (subscripts 2 rest).map fun (matched, rest') => (c :: matched, rest')
      else none
    else if c = ']' then
      (subscripts depth rest).map fun (matched, rest') => (c :: matched, rest')
    else (subscripts (depth + 1) rest).map fun (matched, rest') => (c :: matched, rest')

/-- A row of one or more subscripts. -/
def subscriptRow : Shape := fun _ s =>
  match s with
  | '[' :: _ => subscripts 0 s
  | _ => none

/-- An assignment to an indexed place anywhere, or to a name at the start of a statement. -/
def assignment : Shape :=
  .choice
    [.seq [.many1 isWord, subscriptRow, .blanks, .one (· = '=')],
     .seq [.lineStart, .blanks, .many1 isWord, .blanks, .one (· = '=')],
     .seq [.one (fun c => c = ';' || c = '{' || c = '}'), .blanks, .many1 isWord, .blanks,
       .one (· = '=')]]

/-- A low-level call to another contract. -/
def externalCall : Shape :=
  .seq [.one (· = '.'), .oneOf ["call".toList, "delegatecall".toList, "staticcall".toList],
    .blanks, .one (fun c => c = '(' || c = '{')]

/-- A check that may revert. -/
def validationCall : Shape :=
  .seq [.wordEdge, .oneOf ["require".toList, "assert".toList], .blanks, .one (· = '(')]

/-! ## Detection -/

/-- Whether a text has a loop. -/
def hasLoop (text : List Char) : Bool :=
  loopHead.occurs text

/-- The number of assignments in a text; what goes on to a comparison is none. -/
def storageWrites (text : List Char) : Nat :=
  ((hitsByWord assignment.find text).filter fun hit => hit.value.2.head? ≠ some '=').length

/-- Whether a text calls another contract. -/
def hasExternalCall (text : List Char) : Bool :=
  externalCall.occurs text

/-- The number of checks in a text. -/
def validations (text : List Char) : Nat :=
  validationCall.count text

/-- The evidence of a loop. -/
def ofLoop : Pattern where
  kind := .loop
  description := "Loop detected - gas scales with iterations"
  estimatedGas := loopGas
  suggestion := "Consider using fixed iterations or breaking into smaller chunks"
  occurrences := 1

/-- The evidence of `count` writes. -/
def ofStorageWrites (count : Nat) : Pattern where
  kind := .storageWrite
  description := "Storage write operations detected"
  estimatedGas := count * storageWriteGas
  suggestion := "Consider batching storage operations"
  occurrences := count

/-- The evidence of an external call. -/
def ofExternalCall : Pattern where
  kind := .externalCall
  description := "External call detected"
  estimatedGas := externalCallGas
  suggestion := "Ensure proper gas estimation and consider reentrancy protection"
  occurrences := 1

/-- The evidence of `count` checks. -/
def ofValidations (count : Nat) : Pattern where
  kind := .validation
  description := "Input validation detected"
  estimatedGas := count * validationGas
  suggestion := "Consider custom errors instead of require with strings"
  occurrences := count

/-- The patterns of a text: loop, writes, call and validations, as far as they occur. -/
def detect (text : List Char) : List Pattern :=
  (if hasLoop text then [ofLoop] else []) ++
    (if storageWrites text > 0 then [ofStorageWrites (storageWrites text)] else []) ++
    (if hasExternalCall text then [ofExternalCall] else []) ++
    (if validations text > 0 then [ofValidations (validations text)] else [])

end GasAdvisor.Pattern
