import GasAdvisor.Contract.Braces
import GasAdvisor.Contract.Header
import GasAdvisor.Contract.Parameters
import GasAdvisor.Contract.Pattern

/-!
# Printing contracts

The forms from which a contract is written, each with what makes its parts unambiguous, and the text
of each.

* `Identifier`: one word.
* `ParameterForm.text`: a type with its array suffixes, words for the location, and a name.
* `FunctionForm.text`: the header in its usual order (parameters, visibility, mutability, modifiers,
  returns clause) and the body in braces.
* `ContractForm.text`: the declaration on a line of its own, a line end after each function, and the
  closing brace.

Next to the text of a form stands what it declares: `ParameterForm.parameter`,
`FunctionForm.function` and `ContractForm.functions`.
-/

namespace GasAdvisor

open Text

/-- One word. -/
structure Identifier where
  text : List Char
  ne_nil : text ≠ []
  word : ∀ c ∈ text, isWord c = true

namespace Identifier

/-- The word as a string. -/
def string (x : Identifier) : String :=
  String.ofList x.text

/-- Whether a word among the qualifiers of a function is a modifier: it has no other meaning. -/
def isModifier (x : Identifier) : Bool :=
  x.string ≠ "returns" && (Visibility.ofKeyword? x.string).isNone &&
    (Mutability.ofKeyword? x.string).isNone

end Identifier

/-! ## Parameters -/

/-- The form of a parameter. -/
structure ParameterForm where
  base : Identifier
  /-- What stands between the brackets of each array suffix. -/
  sizes : List (List Char)
  locations : List String
  name : Identifier
  digits : ∀ size ∈ sizes, ∀ c ∈ size, isDecimalDigit c = true
  located : ∀ word ∈ locations, word ∈ Parameter.locations
  unreserved : name.string ∉ reserved

namespace ParameterForm

/-- The text of the type. -/
def typeText (p : ParameterForm) : List Char :=
  p.base.text ++ p.sizes.flatMap fun size => '[' :: size ++ [']']

/-- The parts of a parameter, between which spaces stand. -/
def parts (p : ParameterForm) : List (List Char) :=
  p.typeText :: (p.locations.map String.toList ++ [p.name.text])

/-- The text of a parameter. -/
def text (p : ParameterForm) : List Char :=
  join [' '] p.parts

/-- The parameter that a form declares, whatever the location of its value. -/
def parameter (p : ParameterForm) : Parameter :=
  ⟨String.ofList p.typeText, p.name.string⟩

/-- The text of a parameter list. -/
def listText (ps : List ParameterForm) : List Char :=
  join ", ".toList (ps.map text)

end ParameterForm

/-! ## Functions -/

/-- The form of a function. -/
structure FunctionForm where
  name : Identifier
  parameters : List ParameterForm
  visibility : Option Visibility
  mutability : Option Mutability
  modifiers : List Identifier
  /-- What stands between the parentheses of the returns clause. -/
  returns : Option (List Char)
  /-- What stands between the braces. -/
  body : List Char
  plain : ∀ x ∈ modifiers, x.isModifier = true
  unclosed : ∀ r ∈ returns, ')' ∉ r
  balanced : Balanced body
  single : ¬ Header.keyword <:+: body

namespace FunctionForm

/-- The words between the parameters and the returns clause. -/
def qualifierWords (f : FunctionForm) : List (List Char) :=
  f.visibility.toList.map (·.keyword.toList) ++ f.mutability.toList.map (·.keyword.toList) ++
    f.modifiers.map Identifier.text

/-- The text of a returns clause. -/
def returnsText (returns : Option (List Char)) : List Char :=
  returns.elim [] fun r => " returns (".toList ++ r ++ [')']

/-- The text of a body. -/
def bodyText (f : FunctionForm) : List Char :=
  '{' :: (f.body ++ ['}'])

/-- The text of a function. -/
def text (f : FunctionForm) : List Char :=
  Header.keyword ++ [' '] ++ f.name.text ++ ['('] ++ ParameterForm.listText f.parameters ++ [')'] ++
    f.qualifierWords.flatMap (' ' :: ·) ++ returnsText f.returns ++ ' ' :: f.bodyText

/-- The function that a form declares, its text on the line `line`. -/
def function (line : Nat) (f : FunctionForm) : Function :=
  let patterns := Pattern.detect f.text
  { name := f.name.string
    visibility := f.visibility.getD .public
    mutability := f.mutability.getD .nonpayable
    parameters := f.parameters.map ParameterForm.parameter
    returns := f.returns.map fun r => String.ofList (trim r)
    modifiers := f.modifiers.map Identifier.string
    patterns
    sourceCode := String.ofList f.text
    startLine := line
    complexity := Function.complexityOf patterns }

/-- The functions that forms declare, the first one on the line `line` and each next one on a line
after the last line of the one before. -/
def functionsFrom : (line : Nat) → List FunctionForm → List Function
  | _, [] => []
  | line, f :: more => f.function line :: functionsFrom (line + f.text.count '\n' + 1) more

end FunctionForm

/-! ## Contracts -/

/-- The form of a contract. -/
structure ContractForm where
  name : Identifier
  functions : List FunctionForm

namespace ContractForm

/-- The line that starts a contract. -/
def headText (c : ContractForm) : List Char :=
  "contract ".toList ++ c.name.text ++ " \x7b\n".toList

/-- The text of a contract. -/
def text (c : ContractForm) : List Char :=
  c.headText ++ c.functions.flatMap (fun f => f.text ++ ['\n']) ++ ['}']

end ContractForm

end GasAdvisor
