import GasAdvisor.Text.Utf8

/-!
# Slices of text

A part of a text is named by the byte offsets of its two ends, its `Span`. A span may be sliced out of
a text only if its ends stand in order, within the text and between characters; otherwise `slice?`
gives nothing.

* `charIndex?` turns a byte offset into a number of characters, if it does not stand inside of one.
* `spanAt` is the span of a stretch of characters, so its ends stand between characters.
-/

namespace GasAdvisor.Text

/-- A range of byte offsets. -/
structure Span where
  start : Nat
  /-- The first offset after the range. -/
  stop : Nat
  deriving DecidableEq, Repr

namespace Span

/-- A span that is counted from `offset` on, as one counted from the front. -/
def shift (offset : Nat) (span : Span) : Span :=
  ⟨offset + span.start, offset + span.stop⟩

/-- Whether a byte offset lies in a span. -/
def contains (span : Span) (offset : Nat) : Bool :=
  span.start ≤ offset && offset < span.stop

end Span

/-- The number of characters before a byte offset, unless it stands inside a character or behind the
text. -/
def charIndex? : (offset : Nat) → List Char → Option Nat
  | 0, _ => some 0
  | _ + 1, [] => none
  | offset + 1, c :: rest =>
    if width c ≤ offset + 1 then (charIndex? (offset + 1 - width c) rest).map (· + 1) else none

/-- The part of a text in a span. -/
def slice? (text : List Char) (span : Span) : Option (List Char) :=
  if span.start ≤ span.stop then do
    let first ← charIndex? span.start text
    let last ← charIndex? span.stop text
    return (text.drop first).take (last - first)
  else none

/-- The byte offset of the character at an index. -/
def byteOffset (text : List Char) (index : Nat) : Nat :=
  byteSize (text.take index)

/-- The span of `size` characters from the one at an index on. -/
def spanAt (text : List Char) (index size : Nat) : Span :=
  ⟨byteOffset text index, byteOffset text (index + size)⟩

end GasAdvisor.Text
