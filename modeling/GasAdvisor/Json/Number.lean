import GasAdvisor.Json.Basic

/-!
# Reading JSON numbers

A number without fraction and exponent that fits in 64 bits is an integer. All others are doubles,
found by one multiplication or division: as many digits as fit in 64 bits make the significand, the
other digits only move the exponent, and the significand is scaled by a power of ten. A number that
is too large for a double is no number; minus zero is a double.
-/

namespace GasAdvisor.Json

/-- The largest significand. -/
def maxSignificand : Nat := 1 <<< 64 - 1

/-- The value of a decimal digit. -/
def digitValue (c : Char) : Nat := c.toNat - '0'.toNat

/-- A significand with digits appended as long as it stays in 64 bits, and the number of digits
appended. -/
def absorb (significand : Nat) : List Char → Nat × Nat
  | [] => (significand, 0)
  | d :: rest =>
    let next := significand * 10 + digitValue d
    if next ≤ maxSignificand then
      let (result, count) := absorb next rest
      (result, count + 1)
    else (significand, 0)

/-- A positive significand scaled by a power of ten, in at most `limit + 1` steps. -/
def scale : (limit : Nat) → (value : Float) → (exponent : Int) → Option Float
  | limit, value, exponent =>
    if exponent.natAbs ≤ 308 then
      let power := Float.ofScientific 1 false exponent.natAbs
      if 0 ≤ exponent then
        let product := value * power
        if product.isFinite then some product else none
      else some (value / power)
    else if value == 0 then some value
    else if 0 ≤ exponent then none
    else match limit with
      | 0 => some 0
      | limit + 1 => scale limit (value / 1e308) (exponent + 308)

/-- The double of a significand and a decimal exponent; two steps down bring any significand to
zero. -/
def doubleOfParts (negative : Bool) (significand : Nat) (exponent : Int) : Option Json :=
  (scale 3 (Float.ofNat significand) exponent).map fun value =>
    .double (if negative then -value else value)

/-- The decimal digits at the front of a text, and the rest. -/
def takeDigits (s : List Char) : List Char × List Char :=
  (s.takeWhile Char.isDigit, s.dropWhile Char.isDigit)

/-- Whether a minus sign stands at the front of a text, and the text after its sign. -/
def takeSign : List Char → Bool × List Char
  | '-' :: rest => (true, rest)
  | '+' :: rest => (false, rest)
  | s => (false, s)

/-- An exponent after its mark: a sign and its digits, and the rest. -/
def takeExponent (s : List Char) : Option (Bool × List Char × List Char) :=
  let (negative, s) := takeSign s
  let (ds, rest) := takeDigits s
  if ds.isEmpty then none else some (negative, ds, rest)

/-- The number with the given significand, once its exponent is known. An exponent past 31 bits
leaves only zero, or nothing. -/
def withExponent (negative : Bool) (significand : Nat) (start : Int) (expNegative : Bool)
    (ds : List Char) : Option Json :=
  let size := ds.foldl (fun n d => n * 10 + digitValue d) 0
  if 1 <<< 31 ≤ size then
    if significand ≠ 0 ∧ !expNegative then none
    else some (.double (if negative then -0.0 else 0.0))
  else doubleOfParts negative significand (if expNegative then start - size else start + size)

/-- The number at the front of a text, after its sign, and the rest. -/
def readUnsigned (negative : Bool) (s : List Char) : Option (Json × List Char) :=
  let (whole, rest) := takeDigits s
  match whole with
  | [] => none
  | '0' :: _ :: _ => none
  | _ =>
    let (significand, used) := absorb 0 whole
    afterWhole significand (whole.length - used : Nat) rest
where
  /-- The number after its whole part, of which so many digits were dropped. -/
  afterWhole (significand : Nat) (dropped : Int) (rest : List Char) : Option (Json × List Char) :=
    match rest with
    | '.' :: after =>
      let (fraction, rest) := takeDigits after
      if fraction.isEmpty then none
      else
        let (significand, used) := absorb significand fraction
        finish significand (dropped - used) rest false
    | _ => finish significand dropped rest (dropped = 0)
  /-- The number with the exponent at the front of a text, if there is one. -/
  finish (significand : Nat) (start : Int) (rest : List Char) (isInteger : Bool) :
      Option (Json × List Char) :=
    match rest with
    | c :: after =>
      if c = 'e' ∨ c = 'E' then do
        let (expNegative, ds, rest) ← takeExponent after
        let number ← withExponent negative significand start expNegative ds
        return (number, rest)
      else close significand start rest isInteger
    | [] => close significand start rest isInteger
  /-- The number without an exponent. -/
  close (significand : Nat) (start : Int) (rest : List Char) (isInteger : Bool) :
      Option (Json × List Char) :=
    if isInteger then
      if !negative then some (.integer significand, rest)
      else if significand ≠ 0 ∧ significand ≤ 1 <<< 63 then some (.integer (-significand), rest)
      else some (.double (-Float.ofNat significand), rest)
    else (doubleOfParts negative significand start).map (·, rest)

/-- The number at the front of a text, and the rest. -/
def readNumber (s : List Char) : Option (Json × List Char) :=
  match s with
  | '-' :: rest => readUnsigned true rest
  | _ => readUnsigned false s

end GasAdvisor.Json
