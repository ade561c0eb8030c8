import GasAdvisor.Text.Shape
import GasAdvisor.Text.Utf8

/-!
# Function headers and bodies

The header of a function runs from the word `function` to the brace that opens the body. Reading it
loses nothing: `Header.text` writes a header back character by character, and `Header.read?` splits
a text into a header and the rest.

A body runs from its opening brace to the brace that brings the depth back to zero (`closing?`).
-/

namespace GasAdvisor

open Text

/-- A word between the parameter list and the body, with the white space before and after it and
with the text between its parentheses, if it has any. -/
structure Qualifier where
  lead : List Char
  word : List Char
  gap : List Char
  arguments : Option (List Char)
  deriving DecidableEq, Repr

/-- The header of a function, cut into its parts. -/
structure Header where
  /-- The white space after the word `function`. -/
  gap : List Char
  name : List Char
  nameGap : List Char
  /-- The text between the parentheses after the name. -/
  parameters : List Char
  qualifiers : List Qualifier
  /-- The white space before the opening brace. -/
  bodyGap : List Char
  deriving DecidableEq, Repr

/-- The text up to the first closing parenthesis, and the text after it. -/
def upToParen (s : List Char) : Option (List Char × List Char) :=
  match s.dropWhile (· != ')') with
  | [] => none
  | _ :: rest => some (s.takeWhile (· != ')'), rest)

namespace Qualifier

/-- The text of a qualifier's parenthesised arguments. -/
def argumentsText (q : Qualifier) : List Char :=
  match q.arguments with
  | none => []
  | some arguments => '(' :: arguments ++ [')']

/-- The text of a qualifier from its word on. -/
def body (q : Qualifier) : List Char :=
  q.word ++ q.gap ++ q.argumentsText

/-- The text of a qualifier. -/
def text (q : Qualifier) : List Char :=
  q.lead ++ q.body

/-- The qualifier at the front of a text. A parenthesis that is never closed is not taken. -/
def read? (s : List Char) : Option (Qualifier × List Char) :=
  let lead := s.takeWhile isBlank
  let afterLead := s.dropWhile isBlank
  let word := afterLead.takeWhile isWord
  let afterWord := afterLead.dropWhile isWord
  let gap := afterWord.takeWhile isBlank
  let afterGap := afterWord.dropWhile isBlank
  if word.isEmpty then none
  else match afterGap with
    | '(' :: inner =>
      match upToParen inner with
      | some (arguments, rest) => some (⟨lead, word, gap, some arguments⟩, rest)
      | none => some (⟨lead, word, gap, none⟩, afterGap)
    | _ => some (⟨lead, word, gap, none⟩, afterGap)

/-- The qualifiers at the front of a text, at most `limit` of them. -/
def readUpTo : (limit : Nat) → List Char → List Qualifier × List Char
  | 0, s => ([], s)
  | limit + 1, s =>
    match read? s with
    | none => ([], s)
    | some (q, rest) =>
      let (more, rest') := readUpTo limit rest
      (q :: more, rest')

/-- The qualifiers at the front of a text. Each takes a character or more, so no text has more of
them than characters. -/
def readAll (s : List Char) : List Qualifier × List Char :=
  readUpTo s.length s

end Qualifier

namespace Header

/-- The word that starts a header. -/
def keyword : List Char := "function".toList

/-- The text between the name and the parameters, both left out. -/
def nameText (h : Header) : List Char :=
  keyword ++ h.gap ++ h.name ++ h.nameGap ++ ['(']

/-- The text of the qualifiers. -/
def qualifiersText (h : Header) : List Char :=
  h.qualifiers.flatMap Qualifier.text

/-- The text of a header, from the word `function` to the opening brace. -/
def text (h : Header) : List Char :=
  h.nameText ++ h.parameters ++ [')'] ++ h.qualifiersText ++ h.bodyGap ++ ['{']

/-- The header at the front of a text. -/
def read? (s : List Char) : Option (Header × List Char) :=
  if keyword.isPrefixOf s then
    let afterKeyword := s.drop keyword.length
    let gap := afterKeyword.takeWhile isBlank
    let afterGap := afterKeyword.dropWhile isBlank
    let name := afterGap.takeWhile isWord
    let afterName := afterGap.dropWhile isWord
    let nameGap := afterName.takeWhile isBlank
    if gap.isEmpty || name.isEmpty then none
    else match afterName.dropWhile isBlank with
      | '(' :: inner =>
        match upToParen inner with
        | none => none
        | some (parameters, afterParameters) =>
          let (qualifiers, afterQualifiers) := Qualifier.readAll afterParameters
          match afterQualifiers.dropWhile isBlank with
          | '{' :: rest =>
            some (⟨gap, name, nameGap, parameters, qualifiers,
              afterQualifiers.takeWhile isBlank⟩, rest)
          | _ => none
      | _ => none
  else none

end Header

/-! ## Bodies -/

/-- The text up to and with the brace that closes the last of `depth` open braces. -/
def closing? : (depth : Nat) → List Char → Option (List Char)
  | _, [] => none
  | depth, c :: rest =>
    if c = '{' then (closing? (depth + 1) rest).map (c :: ·)
    else if c = '}' then
      if depth ≤ 1 then some [c] else (closing? (depth - 1) rest).map (c :: ·)
    else (closing? depth rest).map (c :: ·)

/-- The block at the front of a text, from an opening brace to the brace that closes it. -/
def block? (s : List Char) : Option (List Char) :=
  match s with
  | '{' :: rest => (closing? 1 rest).map ('{' :: ·)
  | _ => none

/-- The text from the byte offset `offset` on, if a character starts there. -/
def dropBytes : (offset : Nat) → List Char → Option (List Char)
  | 0, s => some s
  | _ + 1, [] => none
  | offset + 1, c :: rest =>
    if width c ≤ offset + 1 then dropBytes (offset + 1 - width c) rest else none

/-- The byte offset of the brace that closes the one at the byte offset `opening`. -/
def matchingBrace? (text : List Char) (opening : Nat) : Option Nat := do
  let block ← block? (← dropBytes opening text)
  return opening + byteSize block - 1

end GasAdvisor
