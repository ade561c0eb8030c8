import GasAdvisor.Decimal.Text
import GasAdvisor.Toml.Fault

/-!
# Reports on TOML texts

A report shows an error in its place: the line and column where it starts, the line itself, and
marks under the stretch that it is about as far as that lies in the line.

Columns count characters. If the stretch starts with a character of several bytes, they count bytes.
-/

namespace GasAdvisor.Toml

open Text

/-- The number of bytes of a text. -/
def byteCount (s : List Char) : Nat :=
  s.foldl (fun count c => count + c.utf8Size) 0

/-- The number of characters that the first bytes of a text make, unless they end within one. -/
def charsIn? : (bytes : Nat) → List Char → Option Nat
  | 0, _ => some 0
  | _ + 1, [] => none
  | bytes + 1, c :: rest =>
    if c.utf8Size ≤ bytes + 1 then (charsIn? (bytes + 1 - c.utf8Size) rest).map (· + 1) else none

/-- A place in a text: the number of lines before it, the text of its line, and the number of bytes
before it in that line. -/
structure Place where
  line : Nat
  content : List Char
  byte : Nat
  deriving DecidableEq, Repr

namespace Place

/-- The place of a byte in the lines of a text. -/
def inLines (line : Nat) (byte : Nat) : List (List Char) → Place
  | [] => ⟨line, [], byte⟩
  | [content] => ⟨line, content, byte⟩
  | content :: more =>
    if byte ≤ byteCount content then ⟨line, content, byte⟩
    else inLines (line + 1) (byte - byteCount content - 1) more

/-- The column of a place, from zero. -/
def column (p : Place) : Nat :=
  match charsIn? (p.byte + 1) (p.content ++ ['\n']) with
  | some count => count - 1
  | none => p.byte

end Place

/-- The line and the column that a report shows, from zero, the text of the line, and the number
of marks under it. -/
structure Excerpt where
  line : Nat
  column : Nat
  content : String
  marks : Nat
  deriving DecidableEq, Repr

/-- The part of a text that a stretch starts in. What starts at the end of a text is shown one
column after its last character. -/
def Excerpt.ofStretch (text : List Char) (stretch : Stretch) : Excerpt :=
  let size := byteCount text
  let byte := min stretch.start (size - 1)
  let place := Place.inLines 0 byte (pieces '\n' text)
  let column := place.column + (stretch.start - byte)
  let marks := min (stretch.stop - stretch.start) (byteCount place.content - column)
  ⟨place.line, column, String.ofList place.content, max 1 marks⟩

/-- A part of a text, if there is one to show, and what is wrong with it. -/
structure Report where
  excerpt : Option Excerpt
  message : String
  deriving DecidableEq, Repr

/-- The report of an error in a text. -/
def Error.report (text : List Char) (e : Error) : Report :=
  ⟨e.stretch.map (Excerpt.ofStretch text), e.fault.message⟩

/-- The text of a number. -/
def numeral (n : Nat) : String :=
  String.ofList (Decimal.digits n)

/-- Spaces. -/
def spaces (count : Nat) : String :=
  String.ofList (List.replicate count ' ')

/-- The text of an excerpt. -/
def Excerpt.text (e : Excerpt) : String :=
  let number := numeral (e.line + 1)
  let margin := spaces (number.length + 1) ++ "|"
  "TOML parse error at line " ++ number ++ ", column " ++ numeral (e.column + 1) ++ "\n" ++
    margin ++ "\n" ++ number ++ " | " ++ e.content ++ "\n" ++ margin ++ spaces (e.column + 1) ++
    String.ofList (List.replicate e.marks '^') ++ "\n"

/-- The text of a report. -/
def Report.text (r : Report) : String :=
  (r.excerpt.map Excerpt.text).getD "" ++ r.message ++ "\n"

end GasAdvisor.Toml
