/-!
# Floating-point numbers as exact values

A finite floating-point number is a sign, a natural significand and a power of two. `ofFloat?` and
`ofSingle?` read these off the bits of a number; what is not finite has none.

`roundToNat` rounds to the nearest natural number by exact arithmetic, a half away from zero.
-/

namespace GasAdvisor.Decimal

/-- The exact value of a finite floating-point number: `significand * 2 ^ exponent`, negated if so
marked. -/
structure Binary where
  negative : Bool
  significand : Nat
  exponent : Int
  /-- Whether the number below is only half as far away as the number above. -/
  atEdge : Bool
  deriving DecidableEq, Repr

namespace Binary

/-- The value of bits with `fractionBits` bits of fraction and `exponentBits` bits of exponent. The
smallest normal exponent belongs to the fraction's lowest bit at `2 ^ lowest`. -/
def ofBits? (fractionBits exponentBits : Nat) (lowest : Int) (bits : Nat) : Option Binary :=
  let fraction := bits % (1 <<< fractionBits)
  let exponent := (bits >>> fractionBits) % (1 <<< exponentBits)
  let negative := bits >>> (fractionBits + exponentBits) = 1
  if exponent = 1 <<< exponentBits - 1 then none
  else if exponent = 0 then some ⟨negative, fraction, lowest, false⟩
  else
    some ⟨negative, 1 <<< fractionBits + fraction, lowest + (exponent - 1), fraction = 0 ∧ 1 < exponent⟩

/-- The exact value of a finite number. -/
def ofFloat? (x : Float) : Option Binary :=
  ofBits? 52 11 (-1074) x.toBits.toNat

/-- The exact value of a finite number in single precision. -/
def ofSingle? (x : Float32) : Option Binary :=
  ofBits? 23 8 (-149) x.toBits.toNat

/-- The absolute value, rounded to the nearest natural number, a half upwards. -/
def roundAbs (b : Binary) : Nat :=
  match b.exponent with
  | .ofNat e => b.significand <<< e
  | .negSucc e => (2 * b.significand + 1 <<< (e + 1)) >>> (e + 2)

end Binary

/-- The nearest natural number, at most `limit`; zero for what is negative or not a number. -/
def roundToNat (limit : Nat) (x : Float) : Nat :=
  match Binary.ofFloat? x with
  | some b => if b.negative then 0 else min limit b.roundAbs
  | none => if 0 < x then limit else 0

end GasAdvisor.Decimal
