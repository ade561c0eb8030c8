import GasAdvisor.Analysis.Basic
import GasAdvisor.Render.Style

/-!
# What styles add

What is left of a styled text when its looks are taken off.

* `Style.erase` deletes all escape sequences that set a style: the escape character, an opening
  bracket, codes with semicolons between them, and the letter that ends them.
* `asciiRule` writes a box character of the rules of tables in ASCII.
* `Batch.strings` are all texts that a batch holds.
-/

namespace GasAdvisor

open Text

namespace Style

/-- A character of the codes in an escape sequence. -/
def isCode (c : Char) : Bool :=
  c.isDigit || c = ';'

/-- An escape sequence that sets a style. -/
def anySequence : Shape :=
  .seq [.one (· = escape), .one (· = '['), .many isCode, .one (· = 'm')]

/-- A text without escape sequences; `skip` characters belong to a sequence that has been found. -/
def eraseFrom : (skip : Nat) → List Char → List Char
  | _, [] => []
  | skip + 1, _ :: rest => eraseFrom skip rest
  | 0, c :: rest =>
    match anySequence none (c :: rest) with
    | some (found, _) => eraseFrom (found.length - 1) rest
    | none => c :: eraseFrom 0 rest

/-- A text with all escape sequences deleted. -/
def erase (text : List Char) : List Char :=
  eraseFrom 0 text

end Style

/-- A character with the box characters of rules in ASCII. -/
def asciiRule (c : Char) : Char :=
  if c = '│' then '|' else if c = '─' then '-' else c

/-! ## The texts of a batch -/

namespace Parameter

/-- The texts of a parameter. -/
def strings (p : Parameter) : List String := [p.type, p.name]

end Parameter

namespace Pattern

/-- The texts of a pattern. -/
def strings (p : Pattern) : List String := [p.description, p.suggestion]

end Pattern

namespace Function

/-- The texts of a function. -/
def strings (f : Function) : List String :=
  [f.name, f.sourceCode] ++ f.parameters.flatMap Parameter.strings ++ f.returns.toList ++ f.modifiers ++
    f.patterns.flatMap Pattern.strings

end Function

namespace Suggestion

/-- The texts of a suggestion. -/
def strings (s : Suggestion) : List String := s.message :: s.rule.toList

end Suggestion

namespace AnalyzedFunction

/-- The texts of an analysed function. -/
def strings (f : AnalyzedFunction) : List String :=
  f.function.strings ++ f.suggestions.flatMap Suggestion.strings

end AnalyzedFunction

namespace ContractAnalysis

/-- The texts of the analysis of a file. -/
def strings (c : ContractAnalysis) : List String :=
  [c.name, c.file] ++ c.stateVariables ++ c.functions.flatMap AnalyzedFunction.strings ++
    c.diagnostics.flatMap fun d => [d.origin, d.message]

end ContractAnalysis

namespace Batch

/-- The texts of a batch. -/
def strings (b : Batch) : List String :=
  b.timestamp :: b.contracts.flatMap ContractAnalysis.strings ++
    b.failures.flatMap fun failure => [failure.file, failure.error]

end Batch

end GasAdvisor
