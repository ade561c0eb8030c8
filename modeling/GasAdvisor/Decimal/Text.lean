import GasAdvisor.Decimal.Shortest

/-!
# Decimal texts

* `plain` writes a number without an exponent.
* `withPoint` writes a number so that it is never mistaken for an integer: positionally with a
  decimal point while the point stays near the digits, with an exponent otherwise.
* `grouped` writes a natural number with a comma before every third digit from the right.
-/

namespace GasAdvisor.Decimal

/-- The decimal digits of a natural number. -/
def digits (n : Nat) : List Char :=
  Nat.toDigits 10 n

/-- Zeros. -/
def zeros (count : Nat) : List Char :=
  List.replicate count '0'

namespace Scientific

/-- The place of the decimal point, counted from the first digit. -/
def point (d : Scientific) : Int :=
  (digits d.coefficient).length + d.exponent

/-- A decimal in positional notation, with no point if it is an integer. -/
def plain (d : Scientific) : List Char :=
  let ds := digits d.coefficient
  match d.exponent with
  | .ofNat e => if d.coefficient = 0 then ['0'] else ds ++ zeros e
  | .negSucc _ =>
    if 0 < d.point then ds.take d.point.toNat ++ '.' :: ds.drop d.point.toNat
    else '0' :: '.' :: zeros (-d.point).toNat ++ ds

/-- A decimal with an exponent, which is written with its sign. -/
def scientific (d : Scientific) : List Char :=
  let ds := digits d.coefficient
  let mantissa := match ds with
    | first :: second :: more => first :: '.' :: second :: more
    | short => short
  let exponent := d.point - 1
  mantissa ++ 'e' :: (if exponent < 0 then '-' else '+') :: digits exponent.natAbs

/-- A decimal that shows that it is no integer: positional if its point stands at most 16 places
after the first digit and at most 5 before it, and with an exponent otherwise. -/
def withPoint (d : Scientific) : List Char :=
  if d.coefficient = 0 then ['0', '.', '0']
  else if 0 < d.point ∧ d.point ≤ 16 then
    if 0 ≤ d.exponent then d.plain ++ ['.', '0'] else d.plain
  else if -5 < d.point ∧ d.point ≤ 0 then d.plain
  else d.scientific

end Scientific

/-- A sign, if the number has one. -/
def sign (negative : Bool) : List Char :=
  if negative then ['-'] else []

/-- A number in plain decimal notation. -/
def plain (x : Float) : List Char :=
  match Binary.ofFloat? x with
  | some b => sign b.negative ++ (b.shortest .up).plain
  | none =>
    if x.toBits.toNat % (1 <<< 52) ≠ 0 then "NaN".toList
    else if x < 0 then "-inf".toList else "inf".toList

/-- A finite number with a point or an exponent. -/
def withPoint? (x : Float) : Option (List Char) :=
  (Binary.ofFloat? x).map fun b => sign b.negative ++ (b.shortest .toEven).withPoint

/-- The number whose shortest decimal is that of a number in single precision; what is not finite
has none. -/
def ofSingle? (x : Float32) : Option Float :=
  (Binary.ofSingle? x).map fun b =>
    let d := b.shortest .toEven
    let abs := match d.exponent with
      | .ofNat e => Float.ofScientific d.coefficient false e
      | .negSucc e => Float.ofScientific d.coefficient true (e + 1)
    if b.negative then -abs else abs

/-- Digits with a comma after every digit that a multiple of three others follow. -/
def groupDigits : List Char → List Char
  | [] => []
  | [d] => [d]
  | d :: rest => if rest.length % 3 = 0 then d :: ',' :: groupDigits rest else d :: groupDigits rest

/-- A natural number with its digits in groups of three. -/
def grouped (n : Nat) : List Char :=
  groupDigits (digits n)

end GasAdvisor.Decimal
