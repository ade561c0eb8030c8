import GasAdvisor.Contract.Masking

/-!
# Matching braces byte by byte

Among the bytes that encode a text, `0x7b` opens a brace and `0x7d` closes one. The brace that matches
the one at an offset is found by counting the open braces from there on. The count is a natural number,
so it cannot follow a brace that is closed where none is open: `depthAfter?` then has no answer, and
neither has the walk (`closingAt?`, `matchingAt?`). An answer of the walk is the offset of the matching
brace, or that there is none.

`MatchedBraces` says which two braces match, by counting the braces of stretches of bytes and without
a walk.
-/

namespace GasAdvisor

/-! ## Counting -/

/-- The number of open braces after a byte, unless it closes a brace where none is open. -/
def depthAfter? (depth byte : Nat) : Option Nat :=
  if byte = 0x7b then some (depth + 1)
  else if byte = 0x7d then if depth = 0 then none else some (depth - 1)
  else some depth

/-- The offset of the byte that closes the last of `depth` open braces, if one of the bytes does; the
first of them stands at `offset`. -/
def closingAt? : (depth offset : Nat) → List Nat → Option (Option Nat)
  | _, _, [] => some none
  | depth, offset, byte :: rest =>
    match depthAfter? depth byte with
    | none => none
    | some depth' =>
      if byte = 0x7d ∧ depth' = 0 then some (some offset) else closingAt? depth' (offset + 1) rest

/-- The offset of the byte that closes the brace at the offset `opening`, if a brace opens there and
one of the bytes closes it. -/
def matchingAt? (bytes : List Nat) (opening : Nat) : Option (Option Nat) :=
  if bytes[opening]? = some 0x7b then closingAt? 0 opening (bytes.drop opening) else some none

/-! ## Stretches of bytes -/

/-- The bytes from one offset to another, both included. -/
def bytesThrough (bytes : List Nat) (first last : Nat) : List Nat :=
  stretch bytes first (last + 1 - first)

/-- The bytes open as many braces as they close. -/
def LevelBraces (bytes : List Nat) : Prop :=
  bytes.count 0x7b = bytes.count 0x7d

/-- A brace opens at `opening`, and `closing` is the first offset behind it up to which, from `opening`
on, as many braces are opened as closed. -/
structure MatchedBraces (bytes : List Nat) (opening closing : Nat) : Prop where
  opens : bytes[opening]? = some 0x7b
  behind : opening < closing
  bounded : closing < bytes.length
  level : LevelBraces (bytesThrough bytes opening closing)
  first : ∀ offset, opening < offset → offset < closing →
    ¬ LevelBraces (bytesThrough bytes opening offset)

end GasAdvisor
