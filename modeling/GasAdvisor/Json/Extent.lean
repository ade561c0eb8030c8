import GasAdvisor.Json.Reader

/-!
# The extent of a JSON value

Where a value ends, by the grammar alone: numbers of any size, escapes of any code unit and any depth
of nesting are in order. `afterValue?` is the text after a value. It walks through the text once and
keeps a list of the arrays and objects that are open, the innermost first.
-/

namespace GasAdvisor.Json

/-- The text after a string, after its opening quote. -/
def afterString? : List Char → Option (List Char)
  | [] => none
  | '"' :: rest => some rest
  | '\\' :: 'u' :: a :: b :: c :: d :: rest =>
    if (Text.hexNumber? [a, b, c, d]).isSome then afterString? rest else none
  | '\\' :: c :: rest => if (escaped? c).isSome then afterString? rest else none
  | c :: rest => if c = '\\' ∨ c.toNat < 0x20 then none else afterString? rest

/-- The text after the fraction of a number, if there is one. -/
def afterFraction? (s : List Char) : Option (List Char) :=
  match s with
  | '.' :: rest =>
    let (fraction, rest) := takeDigits rest
    if fraction.isEmpty then none else some rest
  | _ => some s

/-- The text after the exponent of a number, if there is one. -/
def afterExponent? (s : List Char) : Option (List Char) :=
  match s with
  | c :: rest => if c = 'e' ∨ c = 'E' then (takeExponent rest).map (·.2.2) else some s
  | [] => some []

/-- The text after a number. -/
def afterNumber? (s : List Char) : Option (List Char) :=
  let (whole, rest) := takeDigits (if s.head? = some '-' then s.drop 1 else s)
  match whole with
  | [] => none
  | '0' :: _ :: _ => none
  | _ => (afterFraction? rest).bind afterExponent?

/-- The text after a value that is neither an array nor an object. -/
def afterScalar? (s : List Char) : Option (List Char) :=
  match s with
  | '"' :: rest => afterString? rest
  | 'n' :: 'u' :: 'l' :: 'l' :: rest => some rest
  | 't' :: 'r' :: 'u' :: 'e' :: rest => some rest
  | 'f' :: 'a' :: 'l' :: 's' :: 'e' :: rest => some rest
  | _ => afterNumber? s

/-- The text after the name of a member and its colon. -/
def afterName? (s : List Char) : Option (List Char) :=
  match skipSpace s with
  | '"' :: rest =>
    match (afterString? rest).map skipSpace with
    | some (':' :: rest) => some rest
    | _ => none
  | _ => none

/-- What encloses a value. -/
inductive Enclosure where
  | array
  | object
  deriving DecidableEq, Repr

mutual

/-- The text after a value at the front of a text and all that encloses it, in at most `limit`
steps. -/
def afterValueIn? : (limit : Nat) → List Enclosure → List Char → Option (List Char)
  | 0, _, _ => none
  | limit + 1, around, s =>
    match skipSpace s with
    | '[' :: rest =>
      match skipSpace rest with
      | ']' :: rest => afterEndIn? limit around rest
      | _ => afterValueIn? limit (.array :: around) rest
    | '{' :: rest =>
      match skipSpace rest with
      | '}' :: rest => afterEndIn? limit around rest
      | _ => (afterName? rest).bind (afterValueIn? limit (.object :: around))
    | s => (afterScalar? s).bind (afterEndIn? limit around)

/-- The text after all that encloses a value which ended before the text, in at most `limit`
steps. -/
def afterEndIn? : (limit : Nat) → List Enclosure → List Char → Option (List Char)
  | _, [], s => some s
  | 0, _ :: _, _ => none
  | limit + 1, .array :: around, s =>
    match skipSpace s with
    | ']' :: rest => afterEndIn? limit around rest
    | ',' :: rest => afterValueIn? limit (.array :: around) rest
    | _ => none
  | limit + 1, .object :: around, s =>
    match skipSpace s with
    | '}' :: rest => afterEndIn? limit around rest
    | ',' :: rest => (afterName? rest).bind (afterValueIn? limit (.object :: around))
    | _ => none

end

/-- The text after the value at the front of a text. Each step passes a character, so that there are
as many steps as are needed. -/
def afterValue? (s : List Char) : Option (List Char) :=
  afterValueIn? (s.length + 1) [] s

end GasAdvisor.Json
