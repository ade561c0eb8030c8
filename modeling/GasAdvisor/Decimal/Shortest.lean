import GasAdvisor.Decimal.Binary

/-!
# Shortest decimals

The shortest decimal that reads back as a given floating-point number: among the decimals that lie
between the midpoints to its two neighbours, the one with the fewest digits, and of several of these
the nearest. The midpoints themselves count if the significand is even, since reading rounds a half
to even. Two decimals that are equally near are told apart by `Tie`.

The search goes through the decimal grids from coarse to fine. If a grid has a point between the
midpoints, then one of the two grid points around the number is such a point, so two candidates per
grid are enough.
-/

namespace GasAdvisor.Decimal

/-- A decimal: `coefficient * 10 ^ exponent`. -/
structure Scientific where
  coefficient : Nat
  exponent : Int
  deriving DecidableEq, Repr

/-- Which of two equally near decimals is taken. -/
inductive Tie where
  | toEven
  | up
  deriving DecidableEq, Repr

/-- A scale: a unit is `num / den`. -/
structure Scale where
  num : Nat
  den : Nat

namespace Scale

/-- The scale of a quarter of `2 ^ exponent` in units of `10 ^ grid`. -/
def quarter (exponent grid : Int) : Scale where
  num := Nat.pow 10 (-grid).toNat <<< (exponent - 2).toNat
  den := Nat.pow 10 grid.toNat <<< (2 - exponent).toNat

end Scale

namespace Binary

/-- The midpoint to the neighbour below, in quarters of the last place. -/
def lowMidpoint (b : Binary) : Nat :=
  if b.atEdge then 4 * b.significand - 1 else 4 * b.significand - 2

/-- The midpoint to the neighbour above, in quarters of the last place. -/
def highMidpoint (b : Binary) : Nat :=
  4 * b.significand + 2

/-- Whether the grid point `c` reads back as the number. -/
def readsBack (b : Binary) (s : Scale) (c : Nat) : Bool :=
  let low := b.lowMidpoint * s.num
  let high := b.highMidpoint * s.num
  let point := c * s.den
  if b.significand % 2 = 0 then low ≤ point && point ≤ high else low < point && point < high

/-- The grid point nearest to the number among those that read back. -/
def onGrid? (tie : Tie) (b : Binary) (s : Scale) : Option Nat :=
  let value := 4 * b.significand * s.num
  let below := value / s.den
  let above := below + 1
  match b.readsBack s below, b.readsBack s above with
  | false, false => none
  | true, false => some below
  | false, true => some above
  | true, true =>
    let toBelow := value - below * s.den
    let toAbove := above * s.den - value
    if toBelow < toAbove then some below
    else if toAbove < toBelow then some above
    else match tie with
      | .up => some above
      | .toEven => some (if below % 2 = 0 then below else above)

/-- The search from the grid `10 ^ grid` on through at most `limit` finer ones. -/
def shortestFrom (tie : Tie) (b : Binary) : (limit : Nat) → (grid : Int) → Scientific
  | 0, grid => ⟨4 * b.significand * (Scale.quarter b.exponent grid).num /
      (Scale.quarter b.exponent grid).den, grid⟩
  | limit + 1, grid =>
    match b.onGrid? tie (.quarter b.exponent grid) with
    | some c => ⟨c, grid⟩
    | none => shortestFrom tie b limit (grid - 1)

/-- The shortest decimal of the absolute value. A number below `2 ^ n` lies below `10 ^ g` for
`g = n * 0.30103 + 1`, and 17 digits always suffice. -/
def shortest (tie : Tie) (b : Binary) : Scientific :=
  if b.significand = 0 then ⟨0, 0⟩
  else
    let top : Int := b.exponent + b.significand.log2 + 1
    shortestFrom tie b 24 (top * 30103 / 100000 + 1)

end Binary

end GasAdvisor.Decimal
