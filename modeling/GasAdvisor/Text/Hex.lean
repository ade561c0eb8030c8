/-!
# Hexadecimal digits

The digits of numbers to the base sixteen: `hexDigit` writes one in lower case, `hexValue?` reads one
in either case.
-/

namespace GasAdvisor.Text

/-- A hexadecimal digit in lower case. -/
def hexDigit (n : Nat) : Char :=
  if n < 10 then Char.ofNat ('0'.toNat + n) else Char.ofNat ('a'.toNat + n - 10)

/-- The value of a hexadecimal digit. -/
def hexValue? (c : Char) : Option Nat :=
  if c.isDigit then some (c.toNat - '0'.toNat)
  else if 'a' ≤ c ∧ c ≤ 'f' then some (c.toNat - 'a'.toNat + 10)
  else if 'A' ≤ c ∧ c ≤ 'F' then some (c.toNat - 'A'.toNat + 10)
  else none

/-- The number that hexadecimal digits write after `high`. -/
def hexNumberFrom? (high : Nat) : List Char → Option Nat
  | [] => some high
  | c :: rest =>
    match hexValue? c with
    | some n => hexNumberFrom? (high * 16 + n) rest
    | none => none

/-- The number that hexadecimal digits write. -/
def hexNumber? (ds : List Char) : Option Nat :=
  hexNumberFrom? 0 ds

/-- The bytes that pairs of hexadecimal digits write. -/
def hexBytes? : List Char → Option (List Nat)
  | [] => some []
  | high :: low :: rest =>
    match hexNumber? [high, low], hexBytes? rest with
    | some b, some bytes => some (b :: bytes)
    | _, _ => none
  | _ => none

end GasAdvisor.Text
