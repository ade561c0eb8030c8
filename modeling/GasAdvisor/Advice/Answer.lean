import GasAdvisor.Suggestion.Basic
import GasAdvisor.Text.LetterCase
import GasAdvisor.Text.Lines
import GasAdvisor.Text.Shape

/-!
# Answers of a language model

Suggestions are read off the text that a model answers with, line by line. A line qualifies if it is
neither short nor long, does not echo the prompt and mentions gas or something that costs gas; it is
made into a sentence. At most three lines count, and where none qualifies a fixed list stands in.
-/

namespace GasAdvisor.Answer

open Text

/-- Words one of which a line has to mention. -/
def keywords : List (List Char) :=
  ["unchecked".toList, "external".toList, "storage".toList, "memory".toList, "calldata".toList,
   "gas".toList, "sstore".toList, "sload".toList, "mapping".toList, "array".toList,
   "uint".toList, "require".toList, "error".toList, "batch".toList, "pack".toList,
   "slot".toList, "optimize".toList]

/-- Phrases of the prompt. -/
def echoes : List (List Char) :=
  ["Optimize this Solidity".toList, "Function:".toList, "Issues:".toList,
   "Gas optimizations:".toList]

/-- The words that end the prompt. -/
def opening : Shape :=
  .seq [.caseless "gas optimizations:".toList, .blanks]

/-- The answer proper: what follows the end of an echoed prompt. -/
def body (output : List Char) : List Char :=
  match first? opening output with
  | some (_, rest) => rest
  | none => output

/-- Whether a line is of a fit length and mentions gas or something that costs gas. -/
def isGasAdvice (line : List Char) : Bool :=
  20 < line.length && line.length < 150 && keywords.any (mentions · (lower line))

/-- A line with a shape at its front taken off. -/
def without (shape : Shape) (line : List Char) : List Char :=
  match shape none line with
  | some (_, rest) => rest
  | none => line

/-- A number and a point. -/
def numbering : Shape :=
  .seq [.many1 isDecimalDigit, .one (· = '.'), .blanks]

/-- A bullet. -/
def bullet : Shape :=
  .seq [.one (fun c => c = '*' || c = '-'), .blanks]

/-- A verb that only introduces the advice. -/
def leadingVerb : Shape :=
  .seq
    [.choice
      [.caseless "use".toList, .caseless "consider".toList, .caseless "try".toList,
       .caseless "implement".toList],
     .many1 isBlank]

/-- A text with its first letter in upper case. -/
def capitalize : List Char → List Char
  | [] => []
  | c :: rest => upperChar c ++ rest

/-- A text with a full stop, unless it ends in one or in an exclamation mark. -/
def terminate (text : List Char) : List Char :=
  if text.getLast? = some '.' ∨ text.getLast? = some '!' then text else text ++ ['.']

/-- A line made into a sentence. -/
def clean (line : List Char) : List Char :=
  trim (terminate (capitalize (without leadingVerb (without bullet (without numbering line)))))

/-- How much the advice of a sentence matters. -/
def impactOf (message : List Char) : Impact :=
  let text := lower message
  if ["storage".toList, "sstore".toList, "struct".toList].any (mentions · text) then .high
  else if ["loop".toList, "unchecked".toList, "memory".toList].any (mentions · text) then .medium
  else .low

/-- Whether a line is advice and no echo. -/
def qualifies (line : List Char) : Bool :=
  15 ≤ line.length && !echoes.any (mentions · line) && isGasAdvice line

/-- The largest number of suggestions that are read off one answer. -/
def maxSuggestions : Nat := 3

/-- The suggestion of a line. -/
def suggestionOf (line : List Char) : Suggestion :=
  .generated (String.ofList (clean line)) 0.8 (impactOf (clean line))

/-- The suggestions where no line qualifies. -/
def fallback : List Suggestion :=
  [.generated
    "Use external visibility instead of public for functions not called internally (~24 gas savings)"
    0.8 .low,
   .generated
    "Cache storage reads in memory variables to avoid multiple SLOAD operations (~2100 gas per read)"
    0.9 .medium,
   .generated
    "Consider using unchecked arithmetic for operations that cannot overflow (~20 gas savings)"
    0.7 .medium]

/-- The qualifying lines of an answer, without the white space around them. -/
def advice (output : List Char) : List (List Char) :=
  ((lines (body output)).map trim).filter qualifies

/-- The suggestions of an answer. -/
def suggestions (output : String) : List Suggestion :=
  match (advice output.toList).take maxSuggestions with
  | [] => fallback
  | found => found.map suggestionOf

end GasAdvisor.Answer
