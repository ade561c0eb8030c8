import GasAdvisor.Contract.Printing
import GasAdvisor.Contract.Slicing
import GasAdvisor.Text.Expression
import GasAdvisor.Text.Spaced

/-!
# Qualifications

What the words between the parameters and the body of a function declare: visibility, mutability, the
returns clause and the modifiers. `Qualification.read?` is the part of reading a function that is
concerned with them, on any part of any text; `Qualification.ofForms` says what it should be, for items
whose forms are known.

* An item is a word that parentheses may follow (`QualifierForm.text`). It belongs to one of four
  groups by its word alone (`QualifierForm.group`).
* Of visibilities and mutabilities the first one counts, of returns clauses with parentheses the last
  one, and all modifiers count.
* `Qualifier.expression` is the regular expression of an item.
-/

namespace GasAdvisor

open Text

/-- What the qualifiers of a function declare. -/
structure Qualification where
  visibility : Visibility
  mutability : Mutability
  returns : Option String
  modifiers : List String
  deriving DecidableEq, Repr

/-- The qualification of a function. -/
def Function.qualification (f : Function) : Qualification :=
  ⟨f.visibility, f.mutability, f.returns, f.modifiers⟩

/-- The qualification that stands in a part of a scanned text, its texts sliced out of the source. -/
def Qualification.read? (source scan : List Char) (part : Text.Span) : Option Qualification := do
  let list ← slice? scan part
  let qualifiers := FoundQualifier.all list
  let sliced (span : Text.Span) := slice? source (span.shift part.start)
  let returns ← ((qualifiers.filter (·.word = "returns")).filterMap (·.arguments)).mapM sliced
  let modifiers ← ((qualifiers.filter (·.isModifier)).map (·.whole)).mapM sliced
  return {
    visibility := (qualifiers.findSome? fun q => Visibility.ofKeyword? q.word).getD default
    mutability := (qualifiers.findSome? fun q => Mutability.ofKeyword? q.word).getD default
    returns := returns.getLast?.map fun arguments => String.ofList (trim arguments)
    modifiers := modifiers.map fun modifier => String.ofList (trim modifier) }

/-! ## Items -/

/-- What an item is about. -/
inductive QualifierGroup where
  | visibility
  | mutability
  | returns
  | modifier
  deriving DecidableEq, Repr

/-- The form of an item. -/
structure QualifierForm where
  word : Identifier
  /-- The white space before the parentheses, and what stands between them. -/
  arguments : Option (List Char × List Char)
  blank : ∀ a ∈ arguments, ∀ c ∈ a.1, isBlank c = true
  unclosed : ∀ a ∈ arguments, ')' ∉ a.2

namespace QualifierForm

/-- The text of an item. -/
def text (form : QualifierForm) : List Char :=
  form.word.text ++ form.arguments.elim [] fun (gap, inner) => gap ++ '(' :: (inner ++ [')'])

/-- What an item is about. -/
def group (form : QualifierForm) : QualifierGroup :=
  if form.word.string = "returns" then .returns
  else if (Visibility.ofKeyword? form.word.string).isSome then .visibility
  else if (Mutability.ofKeyword? form.word.string).isSome then .mutability
  else .modifier

/-- The items of a group, in their order. -/
def inGroup (group : QualifierGroup) (forms : List QualifierForm) : List QualifierForm :=
  forms.filter (·.group = group)

end QualifierForm

/-- What items declare: each field comes from the items of one group. -/
def Qualification.ofForms (forms : List QualifierForm) : Qualification where
  visibility := ((QualifierForm.inGroup .visibility forms).filterMap fun form =>
    Visibility.ofKeyword? form.word.string).head?.getD .public
  mutability := ((QualifierForm.inGroup .mutability forms).filterMap fun form =>
    Mutability.ofKeyword? form.word.string).head?.getD .nonpayable
  returns := ((QualifierForm.inGroup .returns forms).filterMap (·.arguments)).getLast?.map
    fun arguments => String.ofList (trim arguments.2)
  modifiers := (QualifierForm.inGroup .modifier forms).map fun form => String.ofList form.text

/-! ## By a regular expression -/

/-- An item: its first group is the word, its second one what stands between the parentheses. -/
def Qualifier.expression : Expression :=
  .row [.group 1 (.many1 isWord), .many (.one isBlank),
    .optional (.row [.one (· = '('), .group 2 (.many (.one (· != ')'))), .one (· = ')')])]

end GasAdvisor
