import GasAdvisor.Contract.Masking

/-!
# Masking byte by byte

The masked form of a text, computed on the bytes that encode it. Only bytes of ASCII characters start
or end a comment or a literal: the slash `0x2f`, the star `0x2a`, the line feed `0x0a`, the quotes
`0x22` and `0x27`, and the backslash `0x5c`, which hides the byte after it with itself, be it only the
first one of a character.

* `maskBytes` writes a space `0x20` for each hidden byte.
* `maskThroughBytes` reads its result as text again, and falls back on the source where that is not
  well formed.
-/

namespace GasAdvisor

open Text

/-- A byte of a block comment or of a literal: a line feed stays, any other one becomes a space. -/
def feedOrSpace (b : Nat) : Nat :=
  if b = 0x0a then 0x0a else 0x20

/-- The masked bytes of a text that starts in a region. -/
def maskBytesIn : Region → List Nat → List Nat
  | _, [] => []
  | .code, 0x2f :: 0x2f :: rest => 0x20 :: 0x20 :: maskBytesIn .lineComment rest
  | .code, 0x2f :: 0x2a :: rest => 0x20 :: 0x20 :: maskBytesIn .blockComment rest
  | .code, b :: rest =>
    b :: maskBytesIn (if b = 0x22 ∨ b = 0x27 then .literal (Char.ofNat b) else .code) rest
  | .lineComment, b :: rest =>
    if b = 0x0a then b :: maskBytesIn .code rest else 0x20 :: maskBytesIn .lineComment rest
  | .blockComment, 0x2a :: 0x2f :: rest => 0x20 :: 0x20 :: maskBytesIn .code rest
  | .blockComment, b :: rest => feedOrSpace b :: maskBytesIn .blockComment rest
  | .literal quote, 0x5c :: _ :: rest => 0x20 :: 0x20 :: maskBytesIn (.literal quote) rest
  | .literal quote, b :: rest =>
    if b = quote.toNat then b :: maskBytesIn .code rest
    else feedOrSpace b :: maskBytesIn (.literal quote) rest

/-- The masked bytes of a text. -/
def maskBytes (bytes : List Nat) : List Nat :=
  maskBytesIn .code bytes

/-- A text with comments and string contents blanked on its bytes, or the text itself where the blanked
bytes encode none. -/
def maskThroughBytes (source : List Char) : List Char :=
  (decode? (maskBytes (encode source))).getD source

end GasAdvisor
