import GasAdvisor.Contract.Basic
import GasAdvisor.Text.Lines
import GasAdvisor.Text.Shape

/-!
# Prompts

What a language model is asked about a function: its text with single spaces for white space, cut to a
snippet, its name and the kinds of its patterns. The prompt ends where the numbered list of the answer
begins.
-/

namespace GasAdvisor

open Text

namespace Prompt

/-- The number of characters from which on a text is cut. -/
def snippetLimit : Nat := 120

/-- A text with one space in the place of every run of white space. -/
def collapse (text : List Char) : List Char :=
  (Shape.many1 isBlank).replaceAll [' '] text

/-- A text with single spaces for white space and none around it, cut if it is too long. -/
def snippet (text : List Char) : List Char :=
  let clean := trim (collapse text)
  if snippetLimit < clean.length then clean.take snippetLimit ++ "...".toList else clean

/-- The kinds of patterns as a list. -/
def issues (patterns : List PatternKind) : List Char :=
  if patterns.isEmpty then "none".toList
  else join ", ".toList (patterns.map (·.keyword.toList))

/-- The prompt about a function. -/
def build (text name : String) (patterns : List PatternKind) : String :=
  String.ofList <|
    "Optimize this Solidity function for gas efficiency:\n\n".toList ++ snippet text.toList ++
    "\n\nFunction: ".toList ++ name.toList ++ "\nIssues: ".toList ++ issues patterns ++
    "\n\nGas optimizations:\n1.".toList

end Prompt

end GasAdvisor
