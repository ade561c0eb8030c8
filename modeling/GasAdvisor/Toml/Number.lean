import GasAdvisor.Decimal.Binary
import GasAdvisor.Text.Hex
import GasAdvisor.Text.Lines
import GasAdvisor.Toml.Outline

/-!
# TOML numbers

Integers to four bases and floats. Single underscores may stand between digits, a sign before a
decimal number, and no zero before another digit. What is written as a number may still have no
value: an integer beyond 128 bits, a float beyond the largest one, or a base without digits.
-/

namespace GasAdvisor.Toml

open Text

/-- A text without its underscores. -/
def withoutUnderscores (s : List Char) : List Char :=
  s.filter (· != '_')

/-- The number that digits to a base write. -/
def numberOf (base : Nat) (ds : List Char) : Nat :=
  (withoutUnderscores ds).foldl (fun n d => n * base + (hexValue? d).getD 0) 0

/-- Whether a character is a digit to a base. -/
def isDigitTo (base : Nat) (c : Char) : Bool :=
  (hexValue? c).any (· < base)

/-- Refuses an underscore that does not stand between two digits. `after` says whether a digit
stands before the text. -/
def checkUnderscores (isDigit : Char → Bool) (place : Nat) (after : Bool) :
    List Char → Except Error Unit
  | [] => .ok ()
  | c :: rest =>
    if c = '_' ∧ !(after && rest.head?.any isDigit) then
      .error (Fault.looseUnderscore.inStretch ⟨place, place + 1⟩)
    else checkUnderscores isDigit (place + c.utf8Size) (isDigit c) rest

/-- Refuses a zero before another digit. -/
def checkLeadingZero (place : Nat) (s : List Char) : Except Error Unit :=
  match s with
  | '0' :: _ :: _ => .error (Fault.leadingZero.inStretch ⟨place, place + 1⟩)
  | _ => .ok ()

/-! ## Integers -/

/-- A base. -/
def Radix.base : Radix → Nat
  | .hexadecimal => 16
  | .octal => 8
  | .binary => 2

/-- The base that a letter stands for. -/
def Radix.ofLetter? (c : Char) : Option Radix :=
  match c with
  | 'x' | 'X' => some .hexadecimal
  | 'o' | 'O' => some .octal
  | 'b' | 'B' => some .binary
  | _ => none

/-- The integer that digits to a base write, if it fits in 128 bits with or without a sign. -/
def integerOf? (base : Nat) (negative : Bool) (ds : List Char) : Option Int :=
  let ds := withoutUnderscores ds
  if ds.isEmpty ∨ !ds.all (isDigitTo base) then none
  else
    let n : Int := if negative then -(numberOf base ds : Int) else numberOf base ds
    if -(1 <<< 127) ≤ n ∧ n < 1 <<< 128 then some n else none

/-- The decimal integer that a text after its sign writes. -/
def readInteger (place : Nat) (negative : Bool) (s : List Char) : Except Error (Option Int) := do
  checkLeadingZero place s
  checkUnderscores (isDigitTo 16) place false s
  return integerOf? 10 negative s

/-- The integer that digits after a zero and the letter of a base write. -/
def readRadix (radix : Radix) (place : Nat) (s : List Char) : Except Error (Option Int) := do
  if s.head?.any fun c => c = '+' || c = '-' then
    throw (Fault.signInRadix.inStretch ⟨place, place + 1⟩)
  match find? (fun c => !isDigitTo radix.base c && c ≠ '_') place s with
  | some place => throw ((Fault.radixDigit radix).atPlace place)
  | none =>
    checkUnderscores (isDigitTo 16) place false s
    return integerOf? radix.base false s

/-! ## Floats -/

/-- The digits and underscores at the front of a text, of which one has to be a digit, and the
rest. -/
def readDigits (part : FloatPart) (place : Nat) (s : List Char) :
    Except Error (List Char × List Char) :=
  let isPart (c : Char) : Bool := c.isDigit || c = '_'
  let ds := s.takeWhile isPart
  if ds.any Char.isDigit then .ok (ds, s.dropWhile isPart)
  else .error ((Fault.noDigits part).atPlace place)

/-- The fraction at the front of a text, if there is one, and the rest. -/
def readFraction (place : Nat) (s : List Char) : Except Error (List Char × List Char) :=
  match s with
  | '.' :: rest => readDigits .fraction (place + 1) rest
  | s => .ok ([], s)

/-- The sign and the digits of the exponent at the front of a text, if there is one, and the
rest. -/
def readExponent (place : Nat) (s : List Char) : Except Error (Bool × List Char × List Char) := do
  match s with
  | c :: rest =>
    if c = 'e' ∨ c = 'E' then
      match rest with
      | '-' :: rest =>
        let (ds, rest) ← readDigits .exponent (place + 2) rest
        return (true, ds, rest)
      | '+' :: rest =>
        let (ds, rest) ← readDigits .exponent (place + 2) rest
        return (false, ds, rest)
      | rest =>
        let (ds, rest) ← readDigits .exponent (place + 1) rest
        return (false, ds, rest)
    else return (false, [], s)
  | [] => return (false, [], [])

/-- The float nearest to the number that digits write, times a power of ten; none if it is too
large. -/
def floatOf? (ds : List Char) (exponent : Int) : Option Float :=
  let mantissa := numberOf 10 ds
  let size := (ds.dropWhile (· = '0')).length
  if mantissa = 0 then some 0
  else if 400 < exponent + size then none
  else if exponent + size < -400 then some 0
  else
    let x := match exponent with
      | .ofNat e => Float.ofScientific mantissa false e
      | .negSucc e => Float.ofScientific mantissa true (e + 1)
    if x.isFinite then some x else none

/-- The float that a text after its sign writes. -/
def readFloat (place : Nat) (negative : Bool) (s : List Char) : Except Error (Option Float) := do
  let (whole, rest) ← readDigits .mantissa place s
  if 1 < (whole.filter Char.isDigit).length ∧ whole.head? = some '0' then
    throw (Fault.leadingZero.inStretch ⟨place, place + 1⟩)
  let pointPlace := place + whole.length
  let (fraction, rest) ← readFraction pointPlace rest
  let markPlace := place + (s.length - rest.length)
  let (small, size, rest) ← readExponent markPlace rest
  if !rest.isEmpty then
    let restPlace := place + (s.length - rest.length)
    throw (Fault.floatGoesOn.inStretch ⟨restPlace, restPlace + byteCount rest⟩)
  checkUnderscores Char.isDigit place false s
  let ds := withoutUnderscores (whole ++ fraction)
  let size := numberOf 10 size
  let exponent : Int :=
    (if small then -(size : Int) else size) - (withoutUnderscores fraction).length
  return (floatOf? ds exponent).map fun x => if negative then -x else x

end GasAdvisor.Toml
