import GasAdvisor.Text.Shape

/-!
# Regular expressions

A regular expression fits the front of a text in ways that are ordered by preference: a repetition goes
on as long as it can, and of two branches the first one comes first. A search that backtracks takes the
first way with which the rest of what it looks for fits as well, so no decision is final. (For shapes,
every decision is.)

* `Expression.ways` are the ways at the front of a text, in order; `Expression.Fits` says without an
  order which texts an expression takes, and what its groups take of them.
* `Expression.front?` is the preferred way at the front of a text, and `Expression.occurrences` are those
  found in a text from left to right.
* `Expression.whole?` is the preferred way to take a text from start to end, for an expression that is
  bound to both.
-/

namespace GasAdvisor.Text

/-- A regular expression. Its groups are told apart by numbers. -/
inductive Expression where
  /-- The empty text. -/
  | empty
  /-- One character of a class. -/
  | one (p : Char → Bool)
  /-- One expression after the other. -/
  | andThen (first second : Expression)
  /-- The first expression or else the second one. -/
  | orElse (first second : Expression)
  /-- An expression as often as it can be repeated, with some text taken in each turn. -/
  | many (turn : Expression)
  /-- An expression whose text is kept under a number. -/
  | group (number : Nat) (inner : Expression)

/-- A way in which an expression fits the front of a text. -/
structure Way where
  taken : List Char
  /-- What the groups took, in the order in which they ended. -/
  groups : List (Nat × List Char)
  rest : List Char
  deriving DecidableEq, Repr

namespace Way

/-- The way that takes nothing. -/
def still (s : List Char) : Way := ⟨[], [], s⟩

/-- A way and then another one from its rest. -/
def followedBy (way next : Way) : Way :=
  ⟨way.taken ++ next.taken, way.groups ++ next.groups, next.rest⟩

/-- A way whose text is kept under a number. -/
def kept (number : Nat) (way : Way) : Way :=
  { way with groups := way.groups ++ [(number, way.taken)] }

/-- What a group took at last, if it took anything. -/
def group? (way : Way) (number : Nat) : Option (List Char) :=
  way.groups.reverse.lookup number

end Way

namespace Expression

/-! ## Combinations -/

/-- Expressions in a row. -/
def row : List Expression → Expression
  | [] => empty
  | [e] => e
  | e :: es => andThen e (row es)

/-- One of several expressions, the earlier ones first. Where there is none, nothing fits. -/
def choice (es : List Expression) : Expression :=
  es.foldr orElse (one fun _ => false)

/-- A character of a class at least once. -/
def many1 (p : Char → Bool) : Expression :=
  andThen (one p) (many (one p))

/-- An expression if it fits. -/
def optional (e : Expression) : Expression :=
  orElse e empty

/-- A fixed text. -/
def literal : List Char → Expression
  | [] => empty
  | c :: text => andThen (one (· = c)) (literal text)

/-! ## Ways -/

/-- The ways to take at most `limit` turns, more turns before fewer. -/
def repeated (turn : List Char → List Way) : (limit : Nat) → List Char → List Way
  | 0, s => [.still s]
  | limit + 1, s =>
    ((turn s).filter (!·.taken.isEmpty)).flatMap
      (fun way => (repeated turn limit way.rest).map way.followedBy) ++ [.still s]

/-- All ways in which an expression fits the front of a text. Each turn of a repetition takes a
character or more, so there are no more turns than characters. -/
def ways : Expression → List Char → List Way
  | empty, s => [.still s]
  | one _, [] => []
  | one p, c :: rest => if p c then [⟨[c], [], rest⟩] else []
  | andThen first second, s =>
    (first.ways s).flatMap fun way => (second.ways way.rest).map way.followedBy
  | orElse first second, s => first.ways s ++ second.ways s
  | many turn, s => repeated turn.ways s.length s
  | group number inner, s => (inner.ways s).map (.kept number)

/-- The preferred way at the front of a text. -/
def front? (e : Expression) (s : List Char) : Option Way :=
  (e.ways s).head?

/-- The preferred way that leaves nothing of a text. -/
def whole? (e : Expression) (text : List Char) : Option Way :=
  (e.ways text).find? (·.rest.isEmpty)

/-- The preferred ways that are found in a text, from left to right and without overlap. -/
def occurrences (e : Expression) (text : List Char) : List (Hit Way) :=
  hits (fun _ s => (e.front? s).map fun way => (way, way.taken.length)) text

/-! ## The texts of an expression -/

/-- The texts that an expression takes, each with what the groups take of it. -/
inductive Fits : Expression → List Char → List (Nat × List Char) → Prop where
  | empty : Fits .empty [] []
  | one {p : Char → Bool} {c : Char} (h : p c = true) : Fits (.one p) [c] []
  | andThen {first second : Expression} {s t : List Char} {g h : List (Nat × List Char)}
      (hs : Fits first s g) (ht : Fits second t h) : Fits (.andThen first second) (s ++ t) (g ++ h)
  | first {first second : Expression} {s : List Char} {g : List (Nat × List Char)}
      (hs : Fits first s g) : Fits (.orElse first second) s g
  | second {first second : Expression} {s : List Char} {g : List (Nat × List Char)}
      (hs : Fits second s g) : Fits (.orElse first second) s g
  | done {turn : Expression} : Fits (.many turn) [] []
  | again {turn : Expression} {s t : List Char} {g h : List (Nat × List Char)} (hne : s ≠ [])
      (hs : Fits turn s g) (ht : Fits (.many turn) t h) : Fits (.many turn) (s ++ t) (g ++ h)
  | group {number : Nat} {inner : Expression} {s : List Char} {g : List (Nat × List Char)}
      (hs : Fits inner s g) : Fits (.group number inner) s (g ++ [(number, s)])

end Expression

end GasAdvisor.Text
