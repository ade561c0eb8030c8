import GasAdvisor.Contract.ByteMasking

/-!
# Tokens of a source text

What comments and string literals are, said of the bytes of a text without a scanner. A text is cut into
tokens from left to right: single bytes of code, comments and literals. Each token knows its bytes
(`Token.text`), their masked form (`Token.masked`), and what may follow it (`Token.StandsBefore`): a line
comment goes up to the next line feed, a block comment up to the first star and slash, a literal up to
the first quote of its kind that no backslash hides, and a byte of code starts none of these. Only the
end of the text cuts a comment or a literal short.

`Token.Decomposes` says that tokens are those of a text.
-/

namespace GasAdvisor

/-- What stands between the quotes of a literal, one piece after the other. -/
inductive LiteralPiece where
  | plain (byte : Nat)
  /-- A backslash and the byte that it hides. -/
  | escaped (byte : Nat)
  deriving DecidableEq, Repr

namespace LiteralPiece

/-- The bytes of a piece. -/
def text : LiteralPiece → List Nat
  | .plain b => [b]
  | .escaped b => [0x5c, b]

/-- The masked bytes of a piece: of what is not hidden by a backslash, a line feed stays. -/
def masked : LiteralPiece → List Nat
  | .plain b => [feedOrSpace b]
  | .escaped _ => [0x20, 0x20]

/-- Whether a piece stands in a literal with a quote. -/
def FitsIn (quote : Nat) : LiteralPiece → Prop
  | .plain b => b ≠ quote ∧ b ≠ 0x5c
  | .escaped _ => True

end LiteralPiece

/-- How a literal ends. -/
inductive LiteralEnd where
  | quote
  /-- The text ends before the literal does. -/
  | cut
  /-- The text ends behind a backslash. -/
  | cutBackslash
  deriving DecidableEq, Repr

namespace LiteralEnd

/-- The bytes that end a literal with a quote. -/
def text (quote : Nat) : LiteralEnd → List Nat
  | .quote => [quote]
  | .cut => []
  | .cutBackslash => [0x5c]

/-- The masked bytes that end a literal with a quote. -/
def masked (quote : Nat) : LiteralEnd → List Nat
  | .quote => [quote]
  | .cut => []
  | .cutBackslash => [0x20]

end LiteralEnd

/-- A token of a source text. -/
inductive Token where
  /-- A byte outside of comments and literals. -/
  | code (byte : Nat)
  /-- A comment that two slashes start. -/
  | lineComment (content : List Nat)
  /-- A comment that a slash and a star start, and a star and a slash end unless the text does. -/
  | blockComment (content : List Nat) (closed : Bool)
  /-- A string literal that starts with a quote. -/
  | literal (quote : Nat) (pieces : List LiteralPiece) (ending : LiteralEnd)
  deriving DecidableEq, Repr

namespace Token

/-- The bytes of a token. -/
def text : Token → List Nat
  | .code b => [b]
  | .lineComment content => 0x2f :: 0x2f :: content
  | .blockComment content closed =>
    0x2f :: 0x2a :: (content ++ if closed then [0x2a, 0x2f] else [])
  | .literal quote pieces ending =>
    quote :: (pieces.flatMap LiteralPiece.text ++ ending.text quote)

/-- The masked bytes of a token: bytes of code and quotes stay, and so do the line feeds of block
comments and those of literals that no backslash hides. -/
def masked : Token → List Nat
  | .code b => [b]
  | .lineComment content => 0x20 :: 0x20 :: List.replicate content.length 0x20
  | .blockComment content closed =>
    0x20 :: 0x20 :: (content.map feedOrSpace ++ if closed then [0x20, 0x20] else [])
  | .literal quote pieces ending =>
    quote :: (pieces.flatMap LiteralPiece.masked ++ ending.masked quote)

/-- Whether a byte is one of the two quotes. -/
def IsQuote (b : Nat) : Prop :=
  b = 0x22 ∨ b = 0x27

/-- Whether a token is one, with the given bytes after it. -/
def StandsBefore (rest : List Nat) : Token → Prop
  | .code b => ¬ IsQuote b ∧ ¬ (b = 0x2f ∧ (rest.head? = some 0x2f ∨ rest.head? = some 0x2a))
  | .lineComment content => 0x0a ∉ content ∧ (rest = [] ∨ rest.head? = some 0x0a)
  | .blockComment content closed =>
    if closed then ¬ [0x2a, 0x2f] <:+: content ++ [0x2a]
    else ¬ [0x2a, 0x2f] <:+: content ∧ rest = []
  | .literal quote pieces ending =>
    IsQuote quote ∧ (∀ piece ∈ pieces, piece.FitsIn quote) ∧ (ending ≠ .quote → rest = [])

/-- Whether tokens, in a row, are those of a text. -/
inductive Decomposes : List Token → List Nat → Prop
  | nil : Decomposes [] []
  | cons {token : Token} {tokens : List Token} {rest : List Nat} :
      token.StandsBefore rest → Decomposes tokens rest →
        Decomposes (token :: tokens) (token.text ++ rest)

end Token

end GasAdvisor
