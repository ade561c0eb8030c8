import GasAdvisor.Toml.Token

/-!
# Outlines of TOML texts

The outline of a text is what its marks make of it: sections of keys with values, each after its
header. Keys and values stand in it as the words that they are written with, so it says nothing yet
on what they mean, nor on whether keys agree with each other.

* A key or a value that is missing is a word without characters at the place where it is missed,
  unless the outline itself cannot go on without it.
* The values of an array and the pairs of an inline table may stand on several lines, and a comma
  may follow the last of them.
* Values nest at most `maxDepth` deep.
* Comments and ends of lines are looked at when they are passed.
-/

namespace GasAdvisor.Toml

/-- A part of a key or a value as it is written, quotes and all. -/
structure Word where
  quoting : Quoting
  start : Nat
  text : List Char
  deriving DecidableEq, Repr

namespace Word

/-- The byte after a word. -/
def stop (w : Word) : Nat :=
  w.start + byteCount w.text

/-- The stretch that a word fills. -/
def stretch (w : Word) : Stretch :=
  ⟨w.start, w.stop⟩

/-- The word that is missing at a place. -/
def missing (place : Nat) : Word :=
  ⟨.bare, place, []⟩

end Word

/-- A value as it is written. -/
inductive Term where
  | word (word : Word)
  | array (stretch : Stretch) (items : List Term)
  | table (stretch : Stretch) (pairs : List (List Word × Term))

/-- A key, in parts, and its value. -/
abbrev Pair := List Word × Term

/-- A header, of a table or of one more table of an array, and the pairs after it. -/
structure Section where
  ofArray : Bool
  stretch : Stretch
  key : List Word
  pairs : List Pair

/-- The pairs before the first header, and the sections. -/
structure Outline where
  pairs : List Pair
  sections : List Section

/-- The bounds of a text. -/
structure Bounds where
  /-- How many tokens it has. -/
  count : Nat
  /-- Where the text ends. -/
  size : Nat
  /-- Where the last token ends that is neither blank nor comment nor end of line. -/
  last : Nat

namespace Bounds

/-- The bounds of tokens of a text of so many bytes. -/
def ofTokens (size : Nat) (tokens : List Token) : Bounds :=
  ⟨tokens.length, size, ((tokens.filter (!·.isTrivia)).getLast?.map Token.stop).getD 0⟩

/-- The place where the rest of the tokens starts. -/
def next (b : Bounds) : List Token → Nat
  | [] => b.size
  | t :: _ => t.start

end Bounds

/-! ## What stands between words -/

/-- Whether a character may stand in a comment or, as it is, within quotes. -/
def isPlain (c : Char) : Bool :=
  c = '\t' || (0x20 ≤ c.toNat && c.toNat ≠ 0x7f)

/-- The place of the first character of a class in a text that starts at a place. -/
def find? (p : Char → Bool) (start : Nat) : List Char → Option Nat
  | [] => none
  | c :: rest => if p c then some start else find? p (start + c.utf8Size) rest

/-- Refuses a comment with a control character, and a carriage return alone. -/
def Token.check (t : Token) : Except Error Unit :=
  match t.kind with
  | .comment =>
    match find? (!isPlain ·) t.start t.text with
    | some place => .error (Fault.strayCharacter.atPlace place)
    | none => .ok ()
  | .newline => if t.text = ['\r'] then .error (Fault.strayReturn.atPlace t.stop) else .ok ()
  | _ => .ok ()

/-- The tokens after a blank. -/
def skipBlank : List Token → List Token
  | [] => []
  | t :: rest => if t.kind = .blank then rest else t :: rest

/-- The tokens after blanks, comments and ends of lines. -/
def skipTrivia : List Token → Except Error (List Token)
  | [] => .ok []
  | t :: rest =>
    if t.isTrivia then do
      t.check
      skipTrivia rest
    else .ok (t :: rest)

/-- The tokens after the end of a line, whatever stands before it. -/
def skipLine : List Token → Except Error (List Token)
  | [] => .ok []
  | t :: rest => do
    t.check
    if t.kind = .newline then .ok rest else skipLine rest

/-- The tokens after the end of a line that holds nothing more than a comment. -/
def endLine (tokens : List Token) : Except Error (List Token) :=
  match skipBlank tokens with
  | [] => .ok []
  | t :: rest =>
    if t.kind = .comment ∨ t.kind = .newline then skipLine (t :: rest)
    else .error (Fault.lineGoesOn.atPlace t.start)

/-! ## Keys -/

/-- The part of a key at the front of tokens, which is missing if no word is there, and the rest. -/
def keyPart (b : Bounds) (tokens : List Token) : Word × List Token :=
  match tokens with
  | ⟨.word quoting, start, text⟩ :: rest => (⟨quoting, start, text⟩, rest)
  | tokens => (.missing (b.next tokens), tokens)

/-- The parts of a key, at most `limit` of them, with points between them, and the tokens after it
and its blanks. -/
def keyUpTo (b : Bounds) : (limit : Nat) → List Token → List Word × List Token
  | 0, tokens => ([], tokens)
  | limit + 1, tokens =>
    let (part, rest) := keyPart b tokens
    match skipBlank rest with
    | ⟨.point, _, _⟩ :: rest =>
      let (parts, rest) := keyUpTo b limit (skipBlank rest)
      (part :: parts, rest)
    | rest => ([part], rest)

/-- The parts of a key, and the tokens after it and its blanks. -/
def key (b : Bounds) (tokens : List Token) : List Word × List Token :=
  keyUpTo b (b.count + 1) tokens

/-! ## Values -/

/-- A way to read a value at the front of tokens. -/
abbrev TermReader := List Token → Except Error (Term × List Token)

/-- What belongs to a value without quotes after its first token, and the rest: points, words, and
words after blanks. -/
def bareTail : List Token → List Char × List Token
  | t :: u :: rest =>
    if t.kind = .point ∨ t.kind = .word .bare then
      let (text, rest) := bareTail (u :: rest)
      (t.text ++ text, rest)
    else if t.kind = .blank ∧ u.kind = .word .bare then
      let (text, rest) := bareTail rest
      (t.text ++ u.text ++ text, rest)
    else ([], t :: u :: rest)
  | [t] => if t.kind = .point ∨ t.kind = .word .bare then (t.text, []) else ([], [t])
  | [] => ([], [])

/-- The items of an array after its opening bracket or a comma, at most `limit` of them, the place
after the closing bracket, and the rest. -/
def items (b : Bounds) (value : TermReader) :
    (limit : Nat) → List Token → Except Error (List Term × Nat × List Token)
  | 0, _ => .error (Fault.unclosedArray.atPlace b.last)
  | limit + 1, tokens => do
    match ← skipTrivia tokens with
    | [] => throw (Fault.unclosedArray.atPlace b.last)
    | t :: rest =>
      match t.kind with
      | .closeBracket => return ([], t.stop, rest)
      | .comma => throw (Fault.commaInArray.inStretch t.stretch)
      | .assignment => throw (Fault.assignmentInArray.inStretch t.stretch)
      | _ =>
        let (item, rest) ← value (t :: rest)
        match ← skipTrivia rest with
        | [] => throw (Fault.unclosedArray.atPlace b.last)
        | u :: rest =>
          match u.kind with
          | .closeBracket => return ([item], u.stop, rest)
          | .comma =>
            let (more, stop, rest) ← items b value limit rest
            return (item :: more, stop, rest)
          | .assignment => throw (Fault.assignmentInArray.inStretch u.stretch)
          | _ => throw (Fault.noCommaInArray.atPlace u.start)

/-- The value of a key in an inline table, after the assignment. If the table ends here, it is
missing. -/
def heldValue (b : Bounds) (value : TermReader) : TermReader := fun tokens => do
  match ← skipTrivia tokens with
  | [] => throw (Fault.unclosedTable.atPlace b.last)
  | t :: rest =>
    match t.kind with
    | .closeBrace => return (.word ⟨.literal, t.start, []⟩, t :: rest)
    | .comma => throw ((Fault.commaInTable .value).atPlace t.start)
    | .assignment => throw ((Fault.assignmentInTable .value).inStretch t.stretch)
    | _ => value (t :: rest)

/-- The assignment and the value of a key in an inline table. If the table ends here, they are
missing. -/
def assignedValue (b : Bounds) (value : TermReader) : TermReader := fun tokens => do
  match ← skipTrivia tokens with
  | [] => throw (Fault.unclosedTable.atPlace b.last)
  | t :: rest =>
    match t.kind with
    | .assignment => heldValue b value rest
    | .closeBrace => return (.word ⟨.literal, t.start, []⟩, t :: rest)
    | .comma => throw ((Fault.commaInTable .assignment).atPlace t.start)
    | .closeBracket => throw ((Fault.bracketInTable .assignment).atPlace t.start)
    | _ => throw (Fault.noAssignmentInTable.atPlace t.start)

/-- The pairs of an inline table after its opening brace or a comma, at most `limit` of them, the
place after the closing brace, and the rest. -/
def pairs (b : Bounds) (value : TermReader) :
    (limit : Nat) → List Token → Except Error (List Pair × Nat × List Token)
  | 0, _ => .error (Fault.unclosedTable.atPlace b.last)
  | limit + 1, tokens => do
    match ← skipTrivia tokens with
    | [] => throw (Fault.unclosedTable.atPlace b.last)
    | t :: rest =>
      match t.kind with
      | .closeBrace => return ([], t.stop, rest)
      | .comma => throw ((Fault.commaInTable .key).atPlace t.start)
      | .closeBracket => throw ((Fault.bracketInTable .key).atPlace t.start)
      | .openBracket | .openBrace => throw ((Fault.valueWithoutKey .key).atPlace t.start)
      | _ =>
        let (key, rest) := key b (t :: rest)
        let (held, rest) ← assignedValue b value rest
        match ← skipTrivia rest with
        | [] => throw (Fault.unclosedTable.atPlace b.last)
        | u :: rest =>
          match u.kind with
          | .closeBrace => return ([(key, held)], u.stop, rest)
          | .comma =>
            let (more, stop, rest) ← pairs b value limit rest
            return ((key, held) :: more, stop, rest)
          | .assignment => throw ((Fault.assignmentInTable .comma).inStretch u.stretch)
          | .closeBracket => throw ((Fault.bracketInTable .comma).atPlace u.start)
          | .openBracket | .openBrace => throw ((Fault.valueWithoutKey .comma).atPlace u.start)
          | _ => throw (Fault.noCommaInTable.atPlace u.start)

/-- The value at the front of tokens, nested at most `depth` deep. Before the end of a line it is
missing. -/
def value (b : Bounds) : (depth : Nat) → TermReader
  | depth, tokens =>
    match tokens with
    | [] => .ok (.word (.missing b.size), [])
    | t :: rest =>
      match t.kind with
      | .blank | .comment | .newline | .comma => .ok (.word (.missing t.start), t :: rest)
      | .assignment => .error (Fault.doubleAssignment.inStretch t.stretch)
      | .closeBrace => .error (Fault.unopenedTable.atPlace t.start)
      | .closeBracket => .error (Fault.unopenedArray.atPlace t.start)
      | .point | .word .bare =>
        let (text, rest) := bareTail rest
        .ok (.word ⟨.bare, t.start, t.text ++ text⟩, rest)
      | .word quoting => .ok (.word ⟨quoting, t.start, t.text⟩, rest)
      | .openBracket =>
        match depth with
        | 0 => .error (Fault.tooDeep.inStretch t.stretch)
        | depth + 1 => do
          let (items, stop, rest) ← items b (value b depth) (b.count + 1) rest
          return (.array ⟨t.start, stop⟩ items, rest)
      | .openBrace =>
        match depth with
        | 0 => .error (Fault.tooDeep.inStretch t.stretch)
        | depth + 1 => do
          let (pairs, stop, rest) ← pairs b (value b depth) (b.count + 1) rest
          return (.table ⟨t.start, stop⟩ pairs, rest)

/-- The deepest nesting of values that is read. -/
def maxDepth : Nat := 80

/-! ## Lines -/

/-- A line that says something. -/
inductive Statement where
  | header (ofArray : Bool) (stretch : Stretch) (key : List Word)
  | pair (pair : Pair)

/-- The pair at the front of tokens, and the tokens after its line. -/
def pairLine (b : Bounds) (tokens : List Token) : Except Error (Statement × List Token) := do
  let (key, rest) := key b tokens
  match rest with
  | ⟨.assignment, _, _⟩ :: rest =>
    let (held, rest) ← value b maxDepth (skipBlank rest)
    return (.pair (key, held), ← endLine rest)
  | rest =>
    let fault := match tokens with
      | ⟨.point, _, _⟩ :: _ => Fault.noAssignmentAfterPoint
      | _ => .noAssignment
    throw (fault.atPlace (b.next rest))

/-- The header whose brackets open at `start`, from its key on, and the tokens after its line. A
header whose key lacks its last part may lack its closing brackets too. -/
def headerLine (b : Bounds) (ofArray : Bool) (start : Nat) (tokens : List Token) :
    Except Error (Statement × List Token) := do
  let (key, rest) := key b (skipBlank tokens)
  match rest with
  | ⟨.closeBracket, place, text⟩ :: rest =>
    let stop := Token.stop ⟨.closeBracket, place, text⟩
    if ofArray then
      match rest with
      | ⟨.closeBracket, place, text⟩ :: rest =>
        let stop := Token.stop ⟨.closeBracket, place, text⟩
        return (.header true ⟨start, stop⟩ key, ← endLine rest)
      | _ => throw (Fault.halfClosedHeader.atPlace stop)
    else return (.header false ⟨start, stop⟩ key, ← endLine rest)
  | rest =>
    match key.getLast?.filter (!·.text.isEmpty) with
    | some part => throw ((Fault.unclosedHeader ofArray).atPlace part.stop)
    | none => return (.header ofArray ⟨start, b.next rest⟩ key, ← skipLine rest)

/-- The lines of a text, at most `limit` of them. -/
def statements (b : Bounds) : (limit : Nat) → List Token → Except Error (List Statement)
  | 0, _ => .ok []
  | limit + 1, tokens => do
    match ← skipTrivia tokens with
    | [] => return []
    | t :: rest =>
      let (statement, rest) ← match t.kind with
        | .openBracket =>
          match rest with
          | ⟨.openBracket, _, _⟩ :: rest => headerLine b true t.start rest
          | rest => headerLine b false t.start rest
        | .closeBracket => throw (Fault.strayHeaderEnd.atPlace t.start)
        | .comma | .openBrace | .closeBrace => throw (Fault.noKey.atPlace t.start)
        | _ => pairLine b (t :: rest)
      return statement :: (← statements b limit rest)

namespace Outline

/-- The outline that lines make. -/
def ofStatements : List Statement → Outline
  | [] => ⟨[], []⟩
  | .pair pair :: rest =>
    let outline := ofStatements rest
    { outline with pairs := pair :: outline.pairs }
  | .header ofArray stretch key :: rest =>
    let outline := ofStatements rest
    ⟨[], ⟨ofArray, stretch, key, outline.pairs⟩ :: outline.sections⟩

/-- The outline of a text. -/
def ofText (text : List Char) : Except Error Outline := do
  let tokens := tokens text
  let b := Bounds.ofTokens (byteCount text) tokens
  return ofStatements (← statements b (b.count + 1) tokens)

end Outline

end GasAdvisor.Toml
