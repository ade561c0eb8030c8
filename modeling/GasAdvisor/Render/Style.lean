import GasAdvisor.Text.Shape

/-!
# Styled text

A document is a list of lines, and a line is a list of spans of text, each with a style or without.
What is seen of the styles depends on the look: escape sequences around the text, or nothing. The
text itself does not depend on the look.

The sequence that ends a style, where it stands within a styled text, is followed by the sequence
that starts the style again.
-/

namespace GasAdvisor

open Text

/-- How a document looks. -/
inductive Look where
  /-- Characters of ASCII for the rules of tables. -/
  | plain
  /-- Box characters for the rules of tables. -/
  | boxed
  /-- Box characters, and styles as escape sequences. -/
  | colored
  deriving DecidableEq, Repr

/-- How a span of text stands out. -/
inductive Style where
  | dimmed
  | red
  | green
  | yellow
  | blue
  | cyan
  | boldRed
  | boldBlue
  | boldCyan
  | boldWhite
  deriving DecidableEq, Repr

namespace Style

/-- The codes of a style. -/
def codes : Style → String
  | .dimmed => "2"
  | .red => "91"
  | .green => "92"
  | .yellow => "93"
  | .blue => "94"
  | .cyan => "96"
  | .boldRed => "1;91"
  | .boldBlue => "1;94"
  | .boldCyan => "1;96"
  | .boldWhite => "1;97"

/-- The character that starts an escape sequence. -/
def escape : Char := Char.ofNat 27

/-- The sequence with the given codes. -/
def sequence (codes : List Char) : List Char :=
  escape :: '[' :: codes ++ ['m']

/-- The sequence that starts a style. -/
def start (style : Style) : List Char :=
  sequence style.codes.toList

/-- The sequence that ends a style. -/
def reset : List Char :=
  sequence ['0']

/-- A text with another one after each occurrence of a part; `skip` characters belong to an occurrence
that has been found. -/
def insertAfter (part added : List Char) : (skip : Nat) → List Char → List Char
  | _, [] => []
  | 1, c :: rest => c :: added ++ insertAfter part added 0 rest
  | skip + 1, c :: rest => c :: insertAfter part added skip rest
  | 0, c :: rest =>
    if part.isPrefixOf (c :: rest) then c :: insertAfter part added (part.length - 1) rest
    else c :: insertAfter part added 0 rest

/-- A text in a style. -/
def paint (style : Style) (text : List Char) : List Char :=
  style.start ++ insertAfter reset style.start 0 text ++ reset

end Style

/-- A stretch of text with a style or without. -/
structure Span where
  style : Option Style
  text : String
  deriving DecidableEq, Repr

namespace Span

/-- A span without a style. -/
def bare (text : String) : Span := ⟨none, text⟩

/-- A span with a style. -/
def styled (style : Style) (text : String) : Span := ⟨some style, text⟩

/-- The characters of a span. -/
def render (look : Look) (span : Span) : List Char :=
  match look, span.style with
  | .colored, some style => style.paint span.text.toList
  | _, _ => span.text.toList

end Span

/-- A line of spans. -/
abbrev Line := List Span

/-- A list of lines. -/
abbrev Document := List Line

namespace Document

/-- The characters of a line and its end. -/
def renderLine (look : Look) (line : Line) : List Char :=
  line.flatMap (Span.render look) ++ ['\n']

/-- The text of a document. -/
def render (look : Look) (document : Document) : String :=
  String.ofList (document.flatMap (renderLine look))

end Document

/-! ## Columns -/

/-- Spaces. -/
def spaces (count : Nat) : String :=
  String.ofList (List.replicate count ' ')

/-- A text at the left of a column. A text that is wider than its column is not cut. -/
def alignLeft (width : Nat) (text : String) : String :=
  text ++ spaces (width - text.length)

/-- A text at the right of a column. -/
def alignRight (width : Nat) (text : String) : String :=
  spaces (width - text.length) ++ text

/-- A text in the middle of a column, an odd space after it. -/
def alignCenter (width : Nat) (text : String) : String :=
  let gap := width - text.length
  spaces (gap / 2) ++ text ++ spaces (gap - gap / 2)

end GasAdvisor
