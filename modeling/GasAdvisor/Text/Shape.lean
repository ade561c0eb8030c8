import GasAdvisor.Text.CharClass

/-!
# Shapes of text

A shape says what may stand at one place of a text: it looks at the character before the place and
at the text from there on, and splits that text into the part it matches and the rest.

* `Shape.seq` and `Shape.choice` combine shapes. A choice takes its first fitting branch and a
  repetition takes all it can; neither is reconsidered when what follows does not fit, so every
  shape of the library is written such that it never has to be.
* `hits` finds the places of a text where something fits, from left to right, each search starting
  where the match before it ended; `Shape.count` and `Shape.occurs` are what the rules ask.
* `hitsByWord` is the same for a search that begins with a whole word: where it finds nothing at one
  character of a word it finds nothing at the later ones, which are passed over.
* `Shape.replaceAll` puts a fixed text in the place of every match.
* `mentions` is the search for a fixed text.
-/

namespace GasAdvisor.Text

/-- What may stand at a place: from the character before it, if any, and the text from there on,
the matched part and the rest. -/
abbrev Shape := Option Char → List Char → Option (List Char × List Char)

namespace Shape

/-- A fixed text. -/
def literal (text : List Char) : Shape := fun _ s =>
  if text.isPrefixOf s then some (text, s.drop text.length) else none

/-- Whether a character is a form of a lower-case letter, or another character itself. Two letters
have a form outside of ASCII: the long s and the sign for kelvin. -/
def isFormOf (letter c : Char) : Bool :=
  c.toLower = letter || (letter = 's' && c.toNat = 0x17f) || (letter = 'k' && c.toNat = 0x212a)

/-- A fixed text in lower case, whatever the case of its letters. -/
def caseless : List Char → Shape
  | [], _, s => some ([], s)
  | _ :: _, _, [] => none
  | letter :: letters, before, c :: rest =>
    if isFormOf letter c then
      (caseless letters before rest).map fun (matched, rest') => (c :: matched, rest')
    else none

/-- One character of a class. -/
def one (p : Char → Bool) : Shape := fun _ s =>
  match s with
  | [] => none
  | c :: rest => if p c then some ([c], rest) else none

/-- As many characters of a class as there are. -/
def many (p : Char → Bool) : Shape := fun _ s =>
  some (s.takeWhile p, s.dropWhile p)

/-- As many characters of a class as there are, at least one. -/
def many1 (p : Char → Bool) : Shape := fun _ s =>
  match s with
  | [] => none
  | c :: rest => if p c then some (c :: rest.takeWhile p, rest.dropWhile p) else none

/-- White space, possibly none. -/
def blanks : Shape := many isBlank

/-- The edge of a word: a word character on exactly one side. -/
def wordEdge : Shape := fun before s =>
  if before.any isWord != s.head?.any isWord then some ([], s) else none

/-- The start of a line. -/
def lineStart : Shape := fun before s =>
  if before.all (· = '\n') then some ([], s) else none

/-- One shape after the other. -/
def andThen (first second : Shape) : Shape := fun before s =>
  match first before s with
  | none => none
  | some (matched, rest) =>
    match second (matched.getLast?.or before) rest with
    | none => none
    | some (matched', rest') => some (matched ++ matched', rest')

/-- Shapes in a row. -/
def seq : List Shape → Shape
  | [] => fun _ s => some ([], s)
  | [shape] => shape
  | shape :: shapes => andThen shape (seq shapes)

/-- The first shape that fits. -/
def choice : List Shape → Shape
  | [] => fun _ _ => none
  | shape :: shapes => fun before s =>
    match shape before s with
    | some found => some found
    | none => choice shapes before s

/-- The text after a shape, for a shape that does not look at the character before it. -/
def skip (shape : Shape) (s : List Char) : Option (List Char) :=
  (shape none s).map (·.2)

/-- The word at the front of a text, and the rest. -/
def word? (s : List Char) : Option (List Char × List Char) :=
  many1 isWord none s

/-- The digits at the front of a text, and the rest. -/
def digits? (s : List Char) : Option (List Char × List Char) :=
  many1 isDecimalDigit none s

/-- The first of the fixed texts that fits. -/
def oneOf (texts : List (List Char)) : Shape :=
  choice (texts.map literal)

end Shape

/-! ## Searching -/

/-- Something found in a text: the number of characters before it, and what it is. -/
structure Hit (α : Type) where
  index : Nat
  value : α
  deriving Repr, DecidableEq

/-- The hits of a text that stands at `index` after the character `before`, when its first `skip`
characters belong to the hit before. The search `find` answers with what it found and the number of
characters that it takes; `barren` is the number of characters after the first one at which it finds
nothing if it found nothing at that one. -/
def hitsFrom {α : Type} (find : Option Char → List Char → Option (α × Nat))
    (barren : List Char → Nat) : Option Char → Nat → Nat → List Char → List (Hit α)
  | _, _, _, [] => []
  | _, index, skip + 1, c :: rest => hitsFrom find barren (some c) (index + 1) skip rest
  | before, index, 0, c :: rest =>
    match find before (c :: rest) with
    | some (value, size) =>
      ⟨index, value⟩ :: hitsFrom find barren (some c) (index + 1) (size - 1) rest
    | none => hitsFrom find barren (some c) (index + 1) (barren (c :: rest)) rest

/-- All that `find` finds in a text, from left to right and without overlap. -/
def hits {α : Type} (find : Option Char → List Char → Option (α × Nat)) (text : List Char) :
    List (Hit α) :=
  hitsFrom find (fun _ => 0) none 0 0 text

/-- The number of characters of a word after its first one, which stands at the front of a text. -/
def restOfWord : List Char → Nat
  | [] => 0
  | c :: rest => if isWord c then (rest.takeWhile isWord).length else 0

/-- All that `find` finds in a text, from left to right and without overlap, when a failure at one
character of a word is one at all later characters of the word. -/
def hitsByWord {α : Type} (find : Option Char → List Char → Option (α × Nat)) (text : List Char) :
    List (Hit α) :=
  hitsFrom find restOfWord none 0 0 text

/-- The first thing that `find` finds in a text that follows `before`. -/
def firstFrom {α : Type} (find : Option Char → List Char → Option α) :
    Option Char → List Char → Option α
  | _, [] => none
  | before, c :: rest =>
    match find before (c :: rest) with
    | some value => some value
    | none => firstFrom find (some c) rest

/-- The first thing that `find` finds in a text. -/
def first? {α : Type} (find : Option Char → List Char → Option α) (text : List Char) : Option α :=
  firstFrom find none text

namespace Shape

/-- What a shape finds at a place: the match with the text that follows it, and its length. -/
def find (shape : Shape) (before : Option Char) (s : List Char) :
    Option ((List Char × List Char) × Nat) :=
  (shape before s).map fun found => (found, found.1.length)

/-- The number of matches of a shape. -/
def count (shape : Shape) (text : List Char) : Nat :=
  (hits shape.find text).length

/-- The number of matches of a shape that begins with a whole word. -/
def countByWord (shape : Shape) (text : List Char) : Nat :=
  (hitsByWord shape.find text).length

/-- Whether a shape fits anywhere in a text. -/
def occurs (shape : Shape) (text : List Char) : Bool :=
  (first? shape text).isSome

/-- A text that follows `before`, with an image in the place of every match of a shape, when its first
`skip` characters belong to the match before. The shape has to match at least one character. -/
def replaceFrom (shape : Shape) (image : List Char) : Option Char → Nat → List Char → List Char
  | _, _, [] => []
  | _, skip + 1, c :: rest => replaceFrom shape image (some c) skip rest
  | before, 0, c :: rest =>
    match shape before (c :: rest) with
    | some (matched, _) => image ++ replaceFrom shape image (some c) (matched.length - 1) rest
    | none => c :: replaceFrom shape image (some c) 0 rest

/-- A text with an image in the place of every match of a shape, from left to right and without
overlap. -/
def replaceAll (shape : Shape) (image text : List Char) : List Char :=
  replaceFrom shape image none 0 text

end Shape

/-- Whether a text contains the fixed text `part`. -/
def mentions (part : List Char) : List Char → Bool
  | [] => part.isEmpty
  | c :: rest => part.isPrefixOf (c :: rest) || mentions part rest

end GasAdvisor.Text
