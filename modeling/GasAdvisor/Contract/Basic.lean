/-!
# Contracts

The function-level model of one source file: what a contract is called, which functions it has with
their declared qualifiers, and the evidence of cost found in each function's text. A keyword and its
value are tied both ways: `Visibility.keyword` writes what `Visibility.ofKeyword?` reads.
-/

namespace GasAdvisor

/-- From where a function may be called. -/
inductive Visibility where
  | «public»
  | «private»
  | internal
  | external
  deriving DecidableEq, Repr

/-- The declared effect of a function on the state. -/
inductive Mutability where
  | pure
  | view
  | payable
  | nonpayable
  deriving DecidableEq, Repr

/-- A kind of evidence found in a function's text. -/
inductive PatternKind where
  | loop
  | storageWrite
  | externalCall
  | validation
  deriving DecidableEq, Repr

namespace Visibility

/-- A function that declares no visibility is public. -/
instance : Inhabited Visibility := ⟨.public⟩

/-- All visibilities. -/
def all : List Visibility := [.public, .private, .internal, .external]

/-- The word that declares a visibility. -/
def keyword : Visibility → String
  | .public => "public"
  | .private => "private"
  | .internal => "internal"
  | .external => "external"

/-- The visibility that a word declares. -/
def ofKeyword? (word : String) : Option Visibility :=
  all.find? (·.keyword = word)

end Visibility

namespace Mutability

/-- A function that declares no mutability takes no payment and may change the state. -/
instance : Inhabited Mutability := ⟨.nonpayable⟩

/-- All mutabilities. -/
def all : List Mutability := [.pure, .view, .payable, .nonpayable]

/-- The word that declares a mutability. -/
def keyword : Mutability → String
  | .pure => "pure"
  | .view => "view"
  | .payable => "payable"
  | .nonpayable => "nonpayable"

/-- The mutability that a word declares. -/
def ofKeyword? (word : String) : Option Mutability :=
  all.find? (·.keyword = word)

end Mutability

namespace PatternKind

/-- All kinds of patterns. -/
def all : List PatternKind := [.loop, .storageWrite, .externalCall, .validation]

/-- The name of a kind of pattern. -/
def keyword : PatternKind → String
  | .loop => "loop"
  | .storageWrite => "storage_write"
  | .externalCall => "external_call"
  | .validation => "validation"

end PatternKind

/-- An entry of a parameter list, its type with array suffixes. -/
structure Parameter where
  type : String
  name : String
  deriving DecidableEq, Repr

/-- Evidence found in a function's text. -/
structure Pattern where
  kind : PatternKind
  description : String
  /-- The estimated gas, for counted kinds in proportion to the occurrences. -/
  estimatedGas : Nat
  suggestion : String
  /-- The number of places, one for kinds that are only present or absent. -/
  occurrences : Nat
  deriving DecidableEq, Repr

/-- A function of a contract. -/
structure Function where
  name : String
  visibility : Visibility
  mutability : Mutability
  parameters : List Parameter
  /-- The text between the parentheses of the returns clause. -/
  returns : Option String
  /-- All other qualifiers, each with its arguments. -/
  modifiers : List String
  patterns : List Pattern
  /-- The text from the word `function` to the closing brace. -/
  sourceCode : String
  /-- The line of the word `function`, counted from one. -/
  startLine : Nat
  complexity : Nat
  deriving DecidableEq, Repr

/-- A contract of a source file. -/
structure Contract where
  name : String
  functions : List Function
  /-- The names of the state variables, each once, in order of appearance. -/
  stateVariables : List String
  totalLines : Nat
  deriving DecidableEq, Repr

namespace Function

/-- The first pattern of a kind. -/
def pattern? (f : Function) (kind : PatternKind) : Option Pattern :=
  f.patterns.find? (·.kind = kind)

/-- Whether a function has a pattern of a kind. -/
def hasPattern (f : Function) (kind : PatternKind) : Bool :=
  f.patterns.any (·.kind = kind)

/-- The complexity that patterns amount to. -/
def complexityOf (patterns : List Pattern) : Nat :=
  1 + 2 * patterns.length

end Function

namespace Contract

/-- The name of a contract whose declaration names nothing. -/
def unknownName : String := "Unknown"

/-- The name that stands for a text without any declaration. -/
def invalidName : String := "InvalidContract"

/-- What is known of a text without any declaration. -/
def invalid (totalLines : Nat) : Contract := ⟨invalidName, [], [], totalLines⟩

/-- Whether a contract carries the name for a text without any declaration. -/
def isInvalid (c : Contract) : Bool := c.name = invalidName

end Contract

end GasAdvisor
