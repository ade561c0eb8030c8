import GasAdvisor.Toml.Report

/-!
# Tokens of TOML

A text is cut into tokens: marks, words, blanks, comments and ends of lines. Every text can be cut,
for what is wrong within a token is not looked at here: a string may lack its closing quote, and a
carriage return ends a line even where no line feed follows.

* A bare word ends before a blank, an end of line, a mark or a comment, but not before a quote.
* A string on one line ends with its quote, or before the line feed if it has none.
* A block ends with three quotes, and takes up to two more, or ends with the text.
* `tokens text` are the tokens, each with the byte that it starts at.
-/

namespace GasAdvisor.Toml

/-- The kind of a token. -/
inductive TokenKind where
  | point
  | assignment
  | comma
  | openBracket
  | closeBracket
  | openBrace
  | closeBrace
  | blank
  | comment
  | newline
  | word (quoting : Quoting)
  deriving DecidableEq, Repr

/-- A token: its kind, the byte that it starts at, and its characters. -/
structure Token where
  kind : TokenKind
  start : Nat
  text : List Char
  deriving DecidableEq, Repr

namespace Token

/-- The byte after a token. -/
def stop (t : Token) : Nat :=
  t.start + byteCount t.text

/-- The stretch that a token fills. -/
def stretch (t : Token) : Stretch :=
  ⟨t.start, t.stop⟩

/-- Whether a token may stand between any two others in a value. -/
def isTrivia (t : Token) : Bool :=
  t.kind = .blank || t.kind = .comment || t.kind = .newline

end Token

/-- Spaces and tabs. -/
def isSpace (c : Char) : Bool :=
  c = ' ' || c = '\t'

/-- Whether a character ends a bare word. -/
def endsBare (c : Char) : Bool :=
  isSpace c || c = '\n' || c = '\r' || c = '.' || c = '=' || c = ',' || c = '[' || c = ']' ||
    c = '\x7b' || c = '\x7d' || c = '#'

/-- Whether a quote or a backslash that follows a backslash is part of a string in these quotes. -/
def isEscapedIn (quote c : Char) : Bool :=
  quote = '"' && (c = '\\' || c = '"')

/-- The number of characters of a string on one line after its opening quote. -/
def lineSize (quote : Char) : List Char → Nat
  | [] => 0
  | '\\' :: c :: rest =>
    if isEscapedIn quote c then lineSize quote rest + 2 else lineSize quote (c :: rest) + 1
  | c :: rest => if c = quote then 1 else if c = '\n' then 0 else lineSize quote rest + 1

/-- The number of characters of a block after its opening quotes. -/
def blockSize (quote : Char) : List Char → Nat
  | [] => 0
  | '\\' :: c :: rest =>
    if isEscapedIn quote c then blockSize quote rest + 2 else blockSize quote (c :: rest) + 1
  | c :: rest =>
    if c = quote ∧ rest.take 2 = [quote, quote] then
      3 + min 2 ((rest.drop 2).takeWhile (· = quote)).length
    else blockSize quote rest + 1

/-- The kind of a string and the number of its characters after the first quote. -/
def stringShape (quote : Char) (line block : Quoting) (rest : List Char) : TokenKind × Nat :=
  if rest.take 2 = [quote, quote] then (.word block, 2 + blockSize quote (rest.drop 2))
  else (.word line, lineSize quote rest)

/-- The kind of the token that starts with a character, and the number of characters after it that
belong to it. -/
def tokenShape (c : Char) (rest : List Char) : TokenKind × Nat :=
  match c with
  | '.' => (.point, 0)
  | '=' => (.assignment, 0)
  | ',' => (.comma, 0)
  | '[' => (.openBracket, 0)
  | ']' => (.closeBracket, 0)
  | '\x7b' => (.openBrace, 0)
  | '\x7d' => (.closeBrace, 0)
  | ' ' | '\t' => (.blank, (rest.takeWhile isSpace).length)
  | '#' => (.comment, (rest.takeWhile fun c => c ≠ '\r' ∧ c ≠ '\n').length)
  | '\n' => (.newline, 0)
  | '\r' => (.newline, if rest.head? = some '\n' then 1 else 0)
  | '\'' => stringShape '\'' .literal .literalBlock rest
  | '"' => stringShape '"' .basic .basicBlock rest
  | _ => (.word .bare, (rest.takeWhile (!endsBare ·)).length)

/-- The tokens of a text from a byte on. `skip` characters belong to a token that has been cut. -/
def tokensFrom : (start skip : Nat) → List Char → List Token
  | _, _, [] => []
  | start, skip + 1, _ :: rest => tokensFrom start skip rest
  | start, 0, c :: rest =>
    let (kind, more) := tokenShape c rest
    let token : Token := ⟨kind, start, c :: rest.take more⟩
    token :: tokensFrom token.stop more rest

/-- The tokens of a text, which may start with a byte order mark. -/
def tokens (text : List Char) : List Token :=
  match text with
  | c :: rest => if c.toNat = 0xfeff then tokensFrom c.utf8Size 0 rest else tokensFrom 0 0 text
  | [] => []

end GasAdvisor.Toml
