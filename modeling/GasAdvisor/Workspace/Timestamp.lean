import GasAdvisor.Decimal.Text

/-!
# Times in words

A time, counted in nanoseconds since 1970, as a date and a time of day in universal time. A fraction of
a second has three, six or nine digits, as few as say all, and none if there is no fraction.
-/

namespace GasAdvisor.Timestamp

open Decimal

/-- A date of the calendar. -/
structure Date where
  year : Nat
  month : Nat
  day : Nat
  deriving DecidableEq, Repr

/-- The date so many days after the start of 1970. Years are counted from March on, so that the day
that is not in every year is the last one; the calendar repeats after 146097 days. -/
def Date.ofDays (days : Nat) : Date :=
  let days := days + 719468
  let ofEra := days % 146097
  let yearOfEra := (ofEra - ofEra / 1460 + ofEra / 36524 - ofEra / 146096) / 365
  let ofYear := ofEra - (365 * yearOfEra + yearOfEra / 4 - yearOfEra / 100)
  let fromMarch := (5 * ofYear + 2) / 153
  let month := if fromMarch < 10 then fromMarch + 3 else fromMarch - 9
  { year := days / 146097 * 400 + yearOfEra + (if month ≤ 2 then 1 else 0)
    month
    day := ofYear - (153 * fromMarch + 2) / 5 + 1 }

/-- A number with at least so many digits. -/
def padded (count n : Nat) : List Char :=
  List.replicate (count - (digits n).length) '0' ++ digits n

/-- The fraction of a second. -/
def fraction (nanoseconds : Nat) : List Char :=
  if nanoseconds = 0 then []
  else if nanoseconds % 1000000 = 0 then '.' :: padded 3 (nanoseconds / 1000000)
  else if nanoseconds % 1000 = 0 then '.' :: padded 6 (nanoseconds / 1000)
  else '.' :: padded 9 nanoseconds

/-- A time in words. -/
def text (nanoseconds : Nat) : String :=
  let seconds := nanoseconds / 1000000000
  let date := Date.ofDays (seconds / 86400)
  String.ofList <|
    padded 4 date.year ++ '-' :: padded 2 date.month ++ '-' :: padded 2 date.day ++
    'T' :: padded 2 (seconds / 3600 % 24) ++ ':' :: padded 2 (seconds / 60 % 60) ++
    ':' :: padded 2 (seconds % 60) ++ fraction (nanoseconds % 1000000000) ++ "+00:00".toList

end GasAdvisor.Timestamp
