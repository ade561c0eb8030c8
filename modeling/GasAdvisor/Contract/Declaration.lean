import GasAdvisor.Contract.Basic
import GasAdvisor.Text.Shape

/-!
# Declarations

What a source text declares is read off its code, with comments and string contents hidden: whether
it declares anything, and the name of the first declaration that has one.
-/

namespace GasAdvisor.Declaration

open Text

/-- The words that start a declaration. -/
def keywords : List (List Char) :=
  ["contract".toList, "interface".toList, "library".toList]

/-- A word that starts a declaration, standing on its own. -/
def keyword : Shape :=
  .seq [.wordEdge, .oneOf keywords, .wordEdge]

/-- The name after a word that starts a declaration. -/
def nameAt (before : Option Char) (s : List Char) : Option (List Char) := do
  let (_, rest) ← Shape.seq [.wordEdge, .oneOf keywords, .many1 isBlank] before s
  let name := rest.takeWhile isWord
  if name.isEmpty then none else some name

/-- Whether code declares anything. -/
def isPresent (code : List Char) : Bool :=
  keyword.occurs code

/-- The name of the first declaration that has one. -/
def name (code : List Char) : String :=
  match first? nameAt code with
  | none => Contract.unknownName
  | some name => String.ofList name

end GasAdvisor.Declaration
