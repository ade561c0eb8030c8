import GasAdvisor.Contract.Basic
import GasAdvisor.Text.Lines

/-!
# Parameter lists

A parameter is written as a type, any number of words that say where the value lives, and a name.
Entries of a list that do not have this form are left out, and so are those whose name is reserved.
-/

namespace GasAdvisor

open Text

/-- Words that may follow a type without being a name. -/
def reserved : List String :=
  ["memory", "storage", "calldata", "indexed", "returns", "public", "private", "internal",
   "external", "constant", "immutable", "payable", "override", "virtual", "pure", "view",
   "function", "return", "is"]

namespace Parameter

/-- Words that say where the value of a parameter lives. -/
def locations : List String :=
  ["memory", "storage", "calldata", "payable", "indexed"]

/-- Whether a text is a row of array suffixes, each with a possibly empty size in digits; `inside`
says whether a bracket is open. -/
def isArraySuffix : (inside : Bool) → List Char → Bool
  | inside, [] => !inside
  | false, c :: rest => c = '[' && isArraySuffix true rest
  | true, c :: rest =>
    if c = ']' then isArraySuffix false rest else isDecimalDigit c && isArraySuffix true rest

/-- Whether a text is a type: a word with array suffixes. -/
def isType (text : List Char) : Bool :=
  text.head?.any isWord && isArraySuffix false (text.dropWhile isWord)

/-- Whether a text is one word. -/
def isName (text : List Char) : Bool :=
  !text.isEmpty && text.all isWord

/-- The parameter that an entry of a list declares. -/
def ofEntry? (entry : List Char) : Option Parameter :=
  match words entry with
  | [] => none
  | type :: more =>
    match more.getLast? with
    | none => none
    | some name =>
      if isType type && isName name &&
          more.dropLast.all (fun word => locations.contains (String.ofList word)) &&
          !reserved.contains (String.ofList name) then
        some ⟨String.ofList type, String.ofList name⟩
      else
        none

/-- The parameters of a list, its entries separated by commas. -/
def ofList (list : List Char) : List Parameter :=
  (pieces ',' list).filterMap ofEntry?

end Parameter

end GasAdvisor
