import GasAdvisor.Contract.Printing
import GasAdvisor.Text.Expression
import GasAdvisor.Text.Spaced

/-!
# The grammar of parameter lists

An entry of a parameter list is read by its words (`Parameter.ofEntry?`). Here are two other accounts
of what it declares.

* A grammar: an entry declares the parameter of a form if it consists of the parts of that form, with
  white space between them and around them (`Parameter.DeclaredBy`). `Parameter.EntriesDeclare` is the
  same for all entries of a list.
* A regular expression that is bound to both ends of an entry (`Parameter.matched?`). Words for the
  location are words like others, so the expression can take them for the type or for the name as
  well: that the name of `memory payable to` is `to` shows only at its end, and without that word it
  would be `payable`.
-/

namespace GasAdvisor.Parameter

open Text

/-! ## By a grammar -/

/-- The entry of a list that declares a parameter. -/
def DeclaredBy (p : Parameter) (entry : List Char) : Prop :=
  ∃ form : ParameterForm, Spaced form.parts entry ∧ form.parameter = p

/-- What the entries of a list declare, in their order. An entry that declares nothing is passed
over. -/
inductive EntriesDeclare : List (List Char) → List Parameter → Prop where
  | nil : EntriesDeclare [] []
  | declared {entry : List Char} {p : Parameter} {entries : List (List Char)} {ps : List Parameter}
      (h : p.DeclaredBy entry) (more : EntriesDeclare entries ps) :
      EntriesDeclare (entry :: entries) (p :: ps)
  | other {entry : List Char} {entries : List (List Char)} {ps : List Parameter}
      (h : ∀ p : Parameter, ¬ p.DeclaredBy entry) (more : EntriesDeclare entries ps) :
      EntriesDeclare (entry :: entries) ps

/-! ## By a regular expression -/

/-- The array suffixes of a type. -/
def suffixes : Expression :=
  .many (.row [.one (· = '['), .many (.one isDecimalDigit), .one (· = ']')])

/-- Words for the location, each with white space after it. -/
def places : Expression :=
  .many (.row [.choice (locations.map fun word => .literal word.toList), .many1 isBlank])

/-- An entry: its first group is the type, its second one the name. -/
def expression : Expression :=
  .row [.many (.one isBlank), .group 1 (.row [.many1 isWord, suffixes]), .many1 isBlank, places,
    .group 2 (.many1 isWord), .many (.one isBlank)]

/-- The parameter that an entry declares, by its groups. -/
def matched? (entry : List Char) : Option Parameter := do
  let way ← expression.whole? entry
  let type ← way.group? 1
  let name ← way.group? 2
  if reserved.contains (String.ofList name) then none
  else some ⟨String.ofList type, String.ofList name⟩

end GasAdvisor.Parameter
