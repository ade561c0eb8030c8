/-!
# The encoded form of text

How many bytes a character takes, the bytes of a text, and the text of bytes, either strictly or
with each malformed stretch replaced by one replacement character.
-/

namespace GasAdvisor.Text

/-- The number of bytes that encode a character. -/
def width (c : Char) : Nat :=
  if c.toNat < 0x80 then 1 else if c.toNat < 0x800 then 2 else if c.toNat < 0x10000 then 3 else 4

/-- The number of bytes that encode a text. -/
def byteSize : (text : List Char) → Nat
  | [] => 0
  | c :: text => width c + byteSize text

/-- The bytes that encode a character. -/
def encodeChar (c : Char) : List Nat :=
  let n := c.toNat
  if n < 0x80 then [n]
  else if n < 0x800 then [0xc0 + n / 0x40, 0x80 + n % 0x40]
  else if n < 0x10000 then [0xe0 + n / 0x1000, 0x80 + n / 0x40 % 0x40, 0x80 + n % 0x40]
  else [0xf0 + n / 0x40000, 0x80 + n / 0x1000 % 0x40, 0x80 + n / 0x40 % 0x40, 0x80 + n % 0x40]

/-- The bytes that encode a text. -/
def encode (text : List Char) : List Nat :=
  text.flatMap encodeChar

/-- What a lead byte announces: the number of bytes that follow it, the bits it contributes, and the
bounds on the byte after it, which rule out overlong forms, surrogates and too large numbers. -/
def leadByte (b : Nat) : Option (Nat × Nat × Nat × Nat) :=
  if b < 0x80 then some (0, b, 0x80, 0xbf)
  else if 0xc2 ≤ b && b ≤ 0xdf then some (1, b - 0xc0, 0x80, 0xbf)
  else if b = 0xe0 then some (2, 0, 0xa0, 0xbf)
  else if b = 0xed then some (2, 0xd, 0x80, 0x9f)
  else if 0xe1 ≤ b && b ≤ 0xef then some (2, b - 0xe0, 0x80, 0xbf)
  else if b = 0xf0 then some (3, 0, 0x90, 0xbf)
  else if b = 0xf4 then some (3, 4, 0x80, 0x8f)
  else if 0xf1 ≤ b && b ≤ 0xf3 then some (3, b - 0xf0, 0x80, 0xbf)
  else none

/-- A character under decoding: the bytes still to come, the bits so far, and the bounds on the next
byte. -/
structure Unfinished where
  missing : Nat
  bits : Nat
  low : Nat
  high : Nat

/-- What decoding yields: a character, or a malformed stretch of bytes. -/
abbrev Decoded := List (Option Char)

/-- The characters of bytes, `none` for each malformed stretch: the longest start of a character that
does not go on, or a byte that starts none. -/
def decodeFrom : Option Unfinished → List Nat → Decoded
  | none, [] => []
  | some _, [] => [none]
  | none, b :: rest =>
    match leadByte b with
    | none => none :: decodeFrom none rest
    | some (0, bits, _, _) => some (Char.ofNat bits) :: decodeFrom none rest
    | some (missing, bits, low, high) => decodeFrom (some ⟨missing, bits, low, high⟩) rest
  | some p, b :: rest =>
    if p.low ≤ b && b ≤ p.high then
      let bits := p.bits * 0x40 + (b - 0x80)
      if p.missing ≤ 1 then some (Char.ofNat bits) :: decodeFrom none rest
      else decodeFrom (some ⟨p.missing - 1, bits, 0x80, 0xbf⟩) rest
    else
      none :: match leadByte b with
        | none => none :: decodeFrom none rest
        | some (0, bits, _, _) => some (Char.ofNat bits) :: decodeFrom none rest
        | some (missing, bits, low, high) => decodeFrom (some ⟨missing, bits, low, high⟩) rest

/-- The text of bytes, if they are well formed. -/
def decode? (bytes : List Nat) : Option (List Char) :=
  (decodeFrom none bytes).mapM id

/-- The text of bytes, with U+FFFD for each malformed stretch. -/
def decodeLossy (bytes : List Nat) : List Char :=
  (decodeFrom none bytes).map (·.getD (Char.ofNat 0xfffd))

end GasAdvisor.Text
