import GasAdvisor.Json.Number
import GasAdvisor.Text.Hex

/-!
# Reading JSON

The strict grammar: no comments, no trailing commas, no raw control characters in strings, no
surrogate without its partner, nothing after the value but white space. Arrays and objects nest at
most 127 deep.
-/

namespace GasAdvisor.Json

/-- White space between the tokens of a JSON text. -/
def isSpace (c : Char) : Bool :=
  c = ' ' || c = '\n' || c = '\t' || c = '\r'

/-- A text without the white space before it. -/
def skipSpace (s : List Char) : List Char :=
  s.dropWhile isSpace

/-! ## Strings -/

/-- The character that a one-letter escape stands for. -/
def escaped? (c : Char) : Option Char :=
  match c with
  | '"' => some '"'
  | '\\' => some '\\'
  | '/' => some '/'
  | 'b' => some (Char.ofNat 8)
  | 'f' => some (Char.ofNat 12)
  | 'n' => some '\n'
  | 'r' => some '\r'
  | 't' => some '\t'
  | _ => none

/-- Whether a code unit is the first half of a pair. -/
def isHighHalf (n : Nat) : Bool := 0xd800 ≤ n && n < 0xdc00

/-- Whether a code unit is the second half of a pair. -/
def isLowHalf (n : Nat) : Bool := 0xdc00 ≤ n && n < 0xe000

/-- A string after its opening quote: its characters, and the text after the closing quote. -/
def readString : List Char → Option (List Char × List Char)
  | [] => none
  | '"' :: rest => some ([], rest)
  | '\\' :: 'u' :: a :: b :: c :: d :: rest => do
    let n ← Text.hexNumber? [a, b, c, d]
    if isHighHalf n then
      match rest with
      | '\\' :: 'u' :: a' :: b' :: c' :: d' :: rest =>
        let n' ← Text.hexNumber? [a', b', c', d']
        if isLowHalf n' then
          let (s, rest) ← readString rest
          return (Char.ofNat (0x10000 + (n - 0xd800) * 0x400 + (n' - 0xdc00)) :: s, rest)
        else none
      | _ => none
    else if isLowHalf n then none
    else
      let (s, rest) ← readString rest
      return (Char.ofNat n :: s, rest)
  | '\\' :: c :: rest => do
    let x ← escaped? c
    let (s, rest) ← readString rest
    return (x :: s, rest)
  | c :: rest =>
    if c = '\\' ∨ c.toNat < 0x20 then none
    else do
      let (s, rest) ← readString rest
      return (c :: s, rest)

/-! ## Values -/

/-- A way to read a value at the front of a text. -/
abbrev ValueReader := List Char → Option (Json × List Char)

/-- The items of an array from one item on, up to the closing bracket. -/
def readItems (item : ValueReader) : (limit : Nat) → List Char → Option (List Json × List Char)
  | 0, _ => none
  | limit + 1, s => do
    let (value, s) ← item s
    match skipSpace s with
    | ']' :: rest => return ([value], rest)
    | ',' :: rest =>
      let (more, rest) ← readItems item limit rest
      return (value :: more, rest)
    | _ => none

/-- The members of an object from one member on, up to the closing brace. The name of a member says
how its value is read. -/
def readMembers (member : String → ValueReader) :
    (limit : Nat) → List Char → Option (List (String × Json) × List Char)
  | 0, _ => none
  | limit + 1, s => do
    match skipSpace s with
    | '"' :: s =>
      let (name, s) ← readString s
      match skipSpace s with
      | ':' :: s =>
        let (value, s) ← member (String.ofList name) s
        match skipSpace s with
        | '}' :: rest => return ([(String.ofList name, value)], rest)
        | ',' :: rest =>
          let (more, rest) ← readMembers member limit rest
          return ((String.ofList name, value) :: more, rest)
        | _ => none
      | _ => none
    | _ => none

/-- An array after its opening bracket. -/
def readArray (limit : Nat) (item : ValueReader) : ValueReader := fun s =>
  match skipSpace s with
  | ']' :: rest => some (.array [], rest)
  | s => (readItems item limit s).map fun (items, rest) => (.array items, rest)

/-- An object after its opening brace. The name of a member says how its value is read. -/
def readObject (limit : Nat) (member : String → ValueReader) : ValueReader := fun s =>
  match skipSpace s with
  | '}' :: rest => some (.object [], rest)
  | s => (readMembers member limit s).map fun (members, rest) => (.object members, rest)

/-- A value that is neither an array nor an object. -/
def readScalar (s : List Char) : Option (Json × List Char) :=
  match s with
  | '"' :: rest => (readString rest).map fun (s, rest) => (.string (String.ofList s), rest)
  | 'n' :: 'u' :: 'l' :: 'l' :: rest => some (.null, rest)
  | 't' :: 'r' :: 'u' :: 'e' :: rest => some (.bool true, rest)
  | 'f' :: 'a' :: 'l' :: 's' :: 'e' :: rest => some (.bool false, rest)
  | _ => readNumber s

/-- The value at the front of a text, nested at most `depth` deep and with at most `limit` items or
members in each array or object. -/
def readValue (limit : Nat) : (depth : Nat) → ValueReader
  | 0, s =>
    match skipSpace s with
    | '[' :: _ => none
    | '{' :: _ => none
    | s => readScalar s
  | depth + 1, s =>
    match skipSpace s with
    | '[' :: rest => readArray limit (readValue limit depth) rest
    | '{' :: rest => readObject limit (fun _ => readValue limit depth) rest
    | s => readScalar s

/-- The deepest nesting that is read. -/
def maxDepth : Nat := 127

/-! ## Texts -/

/-- The value that a text holds, as a reader that is given the text's length reads it. -/
def parseWith? (reader : (limit : Nat) → ValueReader) (text : List Char) : Option Json :=
  match reader text.length text with
  | some (value, rest) => if (skipSpace rest).isEmpty then some value else none
  | none => none

/-- The value that a text holds. -/
def parse? (text : List Char) : Option Json :=
  parseWith? (readValue · maxDepth) text

end GasAdvisor.Json
