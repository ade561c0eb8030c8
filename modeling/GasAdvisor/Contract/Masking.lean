import GasAdvisor.Text.Utf8

/-!
# Masking comments and string contents

A source text seen as code: each character is visible or hidden. Hidden are comments and the
contents of string literals; line feeds stay visible, as do the quotes around a literal. Inside a
literal a backslash hides the character after it with itself, whatever that character is.

* `glyphs` decides which characters are visible.
* `mask` writes a hidden character as one space for each byte that encodes it, so that the masked
  text is as long as the text in bytes.
* `codeChars` writes it as one space, character by character.
* `cells` pairs each character of the masked text with the part of the source that it stands for, so
  that a stretch found in the masked text yields its source.
-/

namespace GasAdvisor

open Text

/-- A character of a source text, visible as code or hidden. -/
structure Glyph where
  char : Char
  visible : Bool
  deriving DecidableEq, Repr

/-- Where in a source text a character stands. -/
inductive Region where
  | code
  | lineComment
  | blockComment
  | literal (quote : Char)
  deriving DecidableEq, Repr

/-- The glyphs of a text that starts in a region. -/
def glyphsIn : Region → List Char → List Glyph
  | _, [] => []
  | .code, '/' :: '/' :: rest => ⟨'/', false⟩ :: ⟨'/', false⟩ :: glyphsIn .lineComment rest
  | .code, '/' :: '*' :: rest => ⟨'/', false⟩ :: ⟨'*', false⟩ :: glyphsIn .blockComment rest
  | .code, c :: rest =>
    ⟨c, true⟩ :: glyphsIn (if c = '"' ∨ c = '\'' then .literal c else .code) rest
  | .lineComment, c :: rest =>
    if c = '\n' then ⟨c, true⟩ :: glyphsIn .code rest
    else ⟨c, false⟩ :: glyphsIn .lineComment rest
  | .blockComment, '*' :: '/' :: rest => ⟨'*', false⟩ :: ⟨'/', false⟩ :: glyphsIn .code rest
  | .blockComment, c :: rest => ⟨c, c = '\n'⟩ :: glyphsIn .blockComment rest
  | .literal quote, '\\' :: c :: rest =>
    ⟨'\\', false⟩ :: ⟨c, false⟩ :: glyphsIn (.literal quote) rest
  | .literal quote, c :: rest =>
    if c = quote then ⟨c, true⟩ :: glyphsIn .code rest
    else ⟨c, c = '\n'⟩ :: glyphsIn (.literal quote) rest

/-- The glyphs of a text. -/
def glyphs (source : List Char) : List Glyph :=
  glyphsIn .code source

/-- A character of a masked text, and the part of the source that it stands for. Of the spaces
for a hidden character the first stands for it and the others for nothing. -/
structure Cell where
  char : Char
  source : List Char
  deriving DecidableEq, Repr

namespace Glyph

/-- A glyph as code, a space where it is hidden. -/
def code (g : Glyph) : Char :=
  if g.visible then g.char else ' '

/-- The cells of a glyph. -/
def cells (g : Glyph) : List Cell :=
  if g.visible then [⟨g.char, [g.char]⟩]
  else ⟨' ', [g.char]⟩ :: List.replicate (width g.char - 1) ⟨' ', []⟩

end Glyph

/-- A text as code, character by character. -/
def codeChars (source : List Char) : List Char :=
  (glyphs source).map Glyph.code

namespace Cell

/-- The cells of a text that is not masked. -/
def ofText (source : List Char) : List Cell :=
  source.map fun c => ⟨c, [c]⟩

/-- The cells of a text that is masked. -/
def ofMasked (source : List Char) : List Cell :=
  (glyphs source).flatMap Glyph.cells

/-- The source of a stretch of cells. -/
def sourceOf (cells : List Cell) : List Char :=
  cells.flatMap Cell.source

end Cell

/-- The stretch of a list that starts at `start` and has `size` elements. -/
def stretch {α : Type} (items : List α) (start size : Nat) : List α :=
  (items.drop start).take size

/-- A text with comments and string contents blanked, byte for byte. -/
def mask (source : List Char) : List Char :=
  (Cell.ofMasked source).map Cell.char

end GasAdvisor
