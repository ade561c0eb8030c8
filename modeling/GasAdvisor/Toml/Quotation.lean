import GasAdvisor.Text.Hex
import GasAdvisor.Toml.Outline

/-!
# TOML strings

The text within the quotes of a word. Within double quotes a backslash starts an escape; in a block
it may also stand at the end of a line, which vanishes with it and all blanks and ends of lines that
follow. A block goes without an end of line right after its opening quotes.

Every character has its place in the whole text, so that a fault can be reported there.
-/

namespace GasAdvisor.Toml

open Text

/-- A text without quotes on both sides; none if there are not enough of them. -/
def unquoted? (quotes : List Char) (s : List Char) : Option (List Char) :=
  let count := quotes.length
  if 2 * count ≤ s.length ∧ s.drop (s.length - count) = quotes then
    some ((s.drop count).take (s.length - 2 * count))
  else none

/-- The text after an end of line at its front. -/
def newline? : List Char → Option (List Char)
  | '\n' :: rest => some rest
  | '\r' :: '\n' :: rest => some rest
  | _ => none

/-! ## Escapes -/

/-- The character that a number stands for, unless it is half of a pair or too large. -/
def scalar? (n : Nat) : Option Char :=
  if n < 0xd800 ∨ (0xdfff < n ∧ n < 0x110000) then some (Char.ofNat n) else none

/-- The character that a one-letter escape stands for. -/
def escaped? (c : Char) : Option Char :=
  match c with
  | 'b' => some (Char.ofNat 8)
  | 't' => some '\t'
  | 'n' => some '\n'
  | 'f' => some (Char.ofNat 12)
  | 'r' => some '\r'
  | 'e' => some (Char.ofNat 27)
  | '"' => some '"'
  | '\\' => some '\\'
  | _ => none

/-- The number of hexadecimal digits after an escape. -/
def hexDigits? (c : Char) : Option Nat :=
  match c with
  | 'x' => some 2
  | 'u' => some 4
  | 'U' => some 8
  | _ => none

/-- The character of an escape in a text that starts at a place after its backslash, and the number
of characters that the escape takes. -/
def readEscape (place : Nat) (s : List Char) : Except Error (Char × Nat) :=
  match s with
  | [] => .error (Fault.escape.atPlace place)
  | c :: rest =>
    match escaped? c with
    | some escaped => .ok (escaped, 1)
    | none =>
      match hexDigits? c with
      | none => .error (Fault.escape.atPlace place)
      | some count =>
        let digits := (rest.take count).takeWhile fun d => (hexValue? d).isSome
        if digits.length < count then
          .error (Fault.escapeDigits.atPlace (place + 1 + digits.length))
        else
          match (hexNumber? digits).bind scalar? with
          | some escaped => .ok (escaped, count + 1)
          | none => .error (Fault.escapeValue.atPlace (place + 1))

/-! ## Strings on one line -/

/-- A text within single quotes. -/
def readLiteral (place : Nat) (s : List Char) : Except Error (List Char) :=
  match find? (!isPlain ·) place s with
  | some place => .error ((Fault.stringCharacter .literal).atPlace place)
  | none => .ok s

/-- The stretch of characters that do not belong into a text, from its front on. -/
def strayRun (isStray : Char → Bool) (place : Nat) (s : List Char) : Stretch :=
  ⟨place, place + byteCount (s.takeWhile isStray)⟩

/-- A text within double quotes. `skip` characters belong to an escape that has been read. -/
def readBasic : (place skip : Nat) → List Char → Except Error (List Char)
  | _, _, [] => .ok []
  | place, skip + 1, c :: rest => readBasic (place + c.utf8Size) skip rest
  | place, 0, c :: rest =>
    if c = '\\' then do
      let (escaped, size) ← readEscape (place + 1) rest
      return escaped :: (← readBasic (place + 1) size rest)
    else if isPlain c then do return c :: (← readBasic (place + c.utf8Size) 0 rest)
    else .error ((Fault.stringCharacter .basic).inStretch (strayRun (!isPlain ·) place (c :: rest)))

/-! ## Blocks -/

/-- A text within three single quotes. -/
def readLiteralBlock : (place : Nat) → List Char → Except Error (List Char)
  | _, [] => .ok []
  | place, c :: rest =>
    if c = '\r' ∧ rest.head? ≠ some '\n' then .error (Fault.strayReturn.atPlace (place + 1))
    else if isPlain c ∨ c = '\n' ∨ c = '\r' then do
      return c :: (← readLiteralBlock (place + c.utf8Size) rest)
    else .error ((Fault.stringCharacter .literalBlock).atPlace place)

/-- The number of blanks and ends of lines at the front of a text. -/
def foldedSize : (place : Nat) → List Char → Except Error Nat
  | _, [] => .ok 0
  | place, c :: rest =>
    if c = '\r' ∧ rest.head? ≠ some '\n' then .error (Fault.strayReturn.atPlace (place + 1))
    else if isSpace c ∨ c = '\n' ∨ c = '\r' then do return (← foldedSize (place + 1) rest) + 1
    else .ok 0

/-- The number of characters after a backslash that vanish at the end of its line. -/
def brokenLineSize (place : Nat) (s : List Char) : Except Error Nat :=
  let rest := s.dropWhile isSpace
  if rest.head? = some '\n' ∨ rest.head? = some '\r' then foldedSize place s
  else .error (Fault.brokenLine.atPlace (place + (s.takeWhile isSpace).length))

/-- Whether a character does not belong into a block in double quotes. -/
def isStrayInBlock (c : Char) : Bool :=
  !isPlain c && c ≠ '\n' && c ≠ '\r'

/-- A text within three double quotes. `skip` characters belong to an escape that has been read. -/
def readBasicBlock : (place skip : Nat) → List Char → Except Error (List Char)
  | _, _, [] => .ok []
  | place, skip + 1, c :: rest => readBasicBlock (place + c.utf8Size) skip rest
  | place, 0, c :: rest =>
    if c = '\\' then
      if rest.head?.any fun d => isSpace d || d = '\n' || d = '\r' then do
        let size ← brokenLineSize (place + 1) rest
        readBasicBlock (place + 1) size rest
      else do
        let (escaped, size) ← readEscape (place + 1) rest
        return escaped :: (← readBasicBlock (place + 1) size rest)
    else if c = '\r' ∧ rest.head? ≠ some '\n' then .error (Fault.strayReturn.atPlace (place + 1))
    else if isStrayInBlock c then
      let run := strayRun isStrayInBlock place (c :: rest)
      .error ((Fault.stringCharacter .basicBlock).inStretch run)
    else do return c :: (← readBasicBlock (place + c.utf8Size) 0 rest)

/-- A text without an end of line at its front, and the place where it starts then. -/
def afterNewline (place : Nat) (s : List Char) : Nat × List Char :=
  match newline? s with
  | some rest => (place + (s.length - rest.length), rest)
  | none => (place, s)

/-! ## Words in quotes -/

namespace Word

/-- The text within the quotes of a word. A bare word has none and is its own text. -/
def string (w : Word) : Except Error (List Char) :=
  let within (quotes : List Char) (read : Nat → List Char → Except Error (List Char)) :=
    match unquoted? quotes w.text with
    | some s => read (w.start + quotes.length) s
    | none => .error ((Fault.unclosedString w.quoting).atPlace w.stop)
  match w.quoting with
  | .bare => .ok w.text
  | .literal => within ['\''] readLiteral
  | .basic => within ['"'] (readBasic · 0)
  | .literalBlock => within ['\'', '\'', '\''] fun place s =>
    let (place, s) := afterNewline place s
    readLiteralBlock place s
  | .basicBlock => within ['"', '"', '"'] fun place s =>
    let (place, s) := afterNewline place s
    readBasicBlock place 0 s

end Word

end GasAdvisor.Toml
