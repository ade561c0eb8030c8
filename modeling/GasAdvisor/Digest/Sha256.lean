import GasAdvisor.Text.Hex
import GasAdvisor.Text.Utf8

/-!
# SHA-256

The digest of bytes. The message is padded to whole blocks of sixty-four bytes (`padded`), each block
gives sixty-four words, of which sixteen are its own and each later one is computed from four before
it (`schedule`), and the words are mixed one by one into a state of eight words (`round`).
-/

namespace GasAdvisor.Sha256

/-- A word of 32 bits, in which sums wrap around. -/
abbrev Word := UInt32

/-- The first bits of the fractional parts of the cube roots of the first primes. -/
def roundConstants : List Word :=
  [0x428a2f98, 0x71374491, 0xb5c0fbcf, 0xe9b5dba5, 0x3956c25b, 0x59f111f1,
   0x923f82a4, 0xab1c5ed5, 0xd807aa98, 0x12835b01, 0x243185be, 0x550c7dc3,
   0x72be5d74, 0x80deb1fe, 0x9bdc06a7, 0xc19bf174, 0xe49b69c1, 0xefbe4786,
   0x0fc19dc6, 0x240ca1cc, 0x2de92c6f, 0x4a7484aa, 0x5cb0a9dc, 0x76f988da,
   0x983e5152, 0xa831c66d, 0xb00327c8, 0xbf597fc7, 0xc6e00bf3, 0xd5a79147,
   0x06ca6351, 0x14292967, 0x27b70a85, 0x2e1b2138, 0x4d2c6dfc, 0x53380d13,
   0x650a7354, 0x766a0abb, 0x81c2c92e, 0x92722c85, 0xa2bfe8a1, 0xa81a664b,
   0xc24b8b70, 0xc76c51a3, 0xd192e819, 0xd6990624, 0xf40e3585, 0x106aa070,
   0x19a4c116, 0x1e376c08, 0x2748774c, 0x34b0bcb5, 0x391c0cb3, 0x4ed8aa4a,
   0x5b9cca4f, 0x682e6ff3, 0x748f82ee, 0x78a5636f, 0x84c87814, 0x8cc70208,
   0x90befffa, 0xa4506ceb, 0xbef9a3f7, 0xc67178f2]

/-- A state of eight words. -/
structure State where
  a : Word
  b : Word
  c : Word
  d : Word
  e : Word
  f : Word
  g : Word
  h : Word
  deriving DecidableEq, Repr

namespace State

/-- The first bits of the fractional parts of the square roots of the first primes. -/
def initial : State :=
  ⟨0x6a09e667, 0xbb67ae85, 0x3c6ef372, 0xa54ff53a,
   0x510e527f, 0x9b05688c, 0x1f83d9ab, 0x5be0cd19⟩

/-- The sum of two states, word by word. -/
def add (s t : State) : State :=
  ⟨s.a + t.a, s.b + t.b, s.c + t.c, s.d + t.d, s.e + t.e, s.f + t.f, s.g + t.g, s.h + t.h⟩

/-- The words of a state. -/
def words (s : State) : List Word :=
  [s.a, s.b, s.c, s.d, s.e, s.f, s.g, s.h]

end State

/-- The bits of a word moved round to the right. -/
def rotate (x count : Word) : Word :=
  x >>> count ||| x <<< (32 - count)

/-- The state after one word of the schedule. -/
def round (s : State) (constant word : Word) : State :=
  let s1 := rotate s.e 6 ^^^ rotate s.e 11 ^^^ rotate s.e 25
  let choice := s.e &&& s.f ^^^ ~~~s.e &&& s.g
  let t1 := s.h + s1 + choice + constant + word
  let s0 := rotate s.a 2 ^^^ rotate s.a 13 ^^^ rotate s.a 22
  let majority := s.a &&& s.b ^^^ s.a &&& s.c ^^^ s.b &&& s.c
  ⟨t1 + (s0 + majority), s.a, s.b, s.c, s.d + t1, s.e, s.f, s.g⟩

/-- The word that follows the words of a schedule, which are given last one first. -/
def nextWord (latest : List Word) : Word :=
  let back (distance : Nat) : Word := latest.getD (distance - 1) 0
  let s0 := rotate (back 15) 7 ^^^ rotate (back 15) 18 ^^^ back 15 >>> 3
  let s1 := rotate (back 2) 17 ^^^ rotate (back 2) 19 ^^^ back 2 >>> 10
  back 16 + s0 + back 7 + s1

/-- So many more words before the words of a schedule, which are given last one first. -/
def extend (latest : List Word) : (count : Nat) → List Word
  | 0 => latest
  | count + 1 => extend (nextWord latest :: latest) count

/-- The word of four bytes, the highest byte first. -/
def wordOfBytes (bytes : List Nat) : Word :=
  UInt32.ofNat (bytes.foldl (fun n b => n * 0x100 + b) 0)

/-- A list cut into stretches of one length; what is left at the end is dropped. -/
def stretches (length : Nat) (l : List Nat) : List (List Nat) :=
  (List.range (l.length / length)).map fun i => (l.drop (i * length)).take length

/-- The words that a block gives. -/
def schedule (block : List Nat) : List Word :=
  (extend ((stretches 4 block).map wordOfBytes).reverse 48).reverse

/-- The state after a block. -/
def compress (s : State) (block : List Nat) : State :=
  s.add (((roundConstants.zip (schedule block)).foldl (fun t (k, w) => round t k w)) s)

/-- The bytes of a number, so many of them and the highest one first. -/
def bytesOfNat : (count : Nat) → Nat → List Nat
  | 0, _ => []
  | count + 1, n => bytesOfNat count (n / 0x100) ++ [n % 0x100]

/-- The number of zero bytes that make whole blocks of a message, one byte and eight bytes. -/
def zeros (size : Nat) : Nat :=
  (119 - size % 64) % 64

/-- A message with a single bit, zeros and its length in bits after it. -/
def padded (message : List Nat) : List Nat :=
  message ++ 0x80 :: List.replicate (zeros message.length) 0 ++ bytesOfNat 8 (message.length * 8)

/-- The digest of a message. -/
def digest (message : List Nat) : State :=
  (stretches 64 (padded message)).foldl compress .initial

/-- The digits of a byte. -/
def byteDigits (b : Nat) : List Char :=
  [Text.hexDigit (b / 0x10), Text.hexDigit (b % 0x10)]

/-- The hexadecimal digits of the digest of a text. -/
def ofText (text : List Char) : List Char :=
  (digest (Text.encode text)).words.flatMap fun w => (bytesOfNat 4 w.toNat).flatMap byteDigits

end GasAdvisor.Sha256
