import GasAdvisor.Decimal.Text

/-!
# Dates and times

A date, a time of day, or both, and with both perhaps an offset from universal time.
`DateTime.ofText` reads one and says what it lacks otherwise; `DateTime.text` writes it: with `T`
between date and time, with seconds, and with as many places of a second as it has.

The parts of a date or a time are looked for before their sizes are looked at, and these before
their values.
-/

namespace GasAdvisor.Toml

/-- What a fault in a date or time lies in. -/
inductive DatePart where
  | all
  | date
  | junction
  | time
  | offset
  deriving DecidableEq, Repr

/-- What a date or time lacks. -/
inductive DateNeed where
  | yearOrHour
  | firstMark
  | month
  | dayMark
  | day
  | yearDigits
  | monthDigits
  | dayDigits
  | monthRange
  | dayRange (last : Nat)
  | junction
  | hour
  | minuteMark
  | minute
  | second
  | nanosecond
  | hourDigits
  | minuteDigits
  | secondDigits
  | hourRange
  | minuteRange
  | secondRange
  | offset
  | offsetHourRange
  | offsetMinuteRange
  deriving DecidableEq, Repr

/-- What is wrong with a date or time: a part of it, and what is needed there unless there is too
much. -/
structure DateFault where
  part : DatePart
  need : Option DateNeed
  deriving DecidableEq, Repr

/-- The name of a part. -/
def DatePart.name : DatePart → String
  | .all => "datetime"
  | .date => "date"
  | .junction => "date-time"
  | .time => "time"
  | .offset => "offset"

/-- The description of a need. -/
def DateNeed.text : DateNeed → String
  | .yearOrHour => "year or hour"
  | .firstMark => "`-` (YYYY-MM) or `:` (HH:MM)"
  | .month => "month"
  | .dayMark => "`-` (MM-DD)"
  | .day => "day"
  | .yearDigits => "a four-digit year (YYYY)"
  | .monthDigits => "a two-digit month (MM)"
  | .dayDigits => "a two-digit day (DD)"
  | .monthRange => "month between 01 and 12"
  | .dayRange last => "day between 01 and " ++ String.ofList (Decimal.digits last)
  | .junction => "`T` between date and time"
  | .hour => "hour"
  | .minuteMark => "`:` (HH:MM)"
  | .minute => "minute"
  | .second => "second"
  | .nanosecond => "nanosecond"
  | .hourDigits => "a two-digit hour (HH)"
  | .minuteDigits => "a two-digit minute (MM)"
  | .secondDigits => "a two-digit second (SS)"
  | .hourRange => "hour between 00 and 23"
  | .minuteRange => "minute between 00 and 59"
  | .secondRange => "second between 00 and 60"
  | .offset => "`Z`, +OFFSET, -OFFSET"
  | .offsetHourRange => "hours between 00 and 23"
  | .offsetMinuteRange => "minutes between 00 and 59"

/-- The text of a fault. -/
def DateFault.message (f : DateFault) : String :=
  "invalid " ++ f.part.name ++
    match f.need with
    | some need => ", expected " ++ need.text
    | none => ""

/-- A day. -/
structure Date where
  year : Nat
  month : Nat
  day : Nat
  deriving DecidableEq, Repr

/-- A time of day. -/
structure TimeOfDay where
  hour : Nat
  minute : Nat
  second : Nat
  nanosecond : Nat
  deriving DecidableEq, Repr

/-- An offset from universal time: none, or hours and minutes. -/
inductive UtcOffset where
  | zero
  | by (negative : Bool) (hours minutes : Nat)
  deriving DecidableEq, Repr

/-- A date, a time of day, or both. -/
inductive DateTime where
  | date (date : Date)
  | time (time : TimeOfDay)
  | both (date : Date) (time : TimeOfDay) (offset : Option UtcOffset)
  deriving DecidableEq, Repr

/-! ## Reading -/

/-- The number that decimal digits write. -/
def decimalOf (ds : List Char) : Nat :=
  ds.foldl (fun n d => n * 10 + (d.toNat - '0'.toNat)) 0

/-- The digits at the front of a text, of which there has to be one, and the rest. -/
def digitsOr (part : DatePart) (need : DateNeed) (s : List Char) :
    Except DateFault (List Char × List Char) :=
  match s.takeWhile Char.isDigit with
  | [] => .error ⟨part, some need⟩
  | ds => .ok (ds, s.dropWhile Char.isDigit)

/-- The text after a mark that has to be there. -/
def afterMark (part : DatePart) (need : DateNeed) (mark : Char) (s : List Char) :
    Except DateFault (List Char) :=
  match s with
  | c :: rest => if c = mark then .ok rest else .error ⟨part, some need⟩
  | [] => .error ⟨part, some need⟩

/-- Refuses what does not hold. -/
def demand (part : DatePart) (need : DateNeed) (holds : Bool) : Except DateFault Unit :=
  if holds then .ok () else .error ⟨part, some need⟩

/-- The number of days of a month. -/
def daysOf (year month : Nat) : Nat :=
  if month = 2 then
    if year % 4 = 0 ∧ (year % 100 ≠ 0 ∨ year % 400 = 0) then 29 else 28
  else if month = 4 ∨ month = 6 ∨ month = 9 ∨ month = 11 then 30
  else 31

namespace Date

/-- The date at the front of a text after the digits of its year and a mark, and the rest. -/
def read (year : List Char) (s : List Char) : Except DateFault (Date × List Char) := do
  let (month, s) ← digitsOr .date .month s
  let s ← afterMark .date .dayMark '-' s
  let (day, s) ← digitsOr .date .day s
  demand .date .yearDigits (year.length = 4)
  demand .date .monthDigits (month.length = 2)
  demand .date .dayDigits (day.length = 2)
  let date : Date := ⟨decimalOf year, decimalOf month, decimalOf day⟩
  demand .date .monthRange (1 ≤ date.month ∧ date.month ≤ 12)
  let last := daysOf date.year date.month
  demand .date (.dayRange last) (1 ≤ date.day ∧ date.day ≤ last)
  return (date, s)

end Date

namespace TimeOfDay

/-- The seconds at the front of a text and their places, if it starts with their mark, and the
rest. -/
def readSeconds (s : List Char) :
    Except DateFault (Option (List Char) × List Char × List Char) := do
  match s with
  | ':' :: s =>
    let (second, s) ← digitsOr .time .second s
    match s with
    | '.' :: s =>
      let (places, s) ← digitsOr .time .nanosecond s
      return (some second, places, s)
    | s => return (some second, [], s)
  | s => return (none, [], s)

/-- The time of day at the front of a text, and the rest. -/
def read (s : List Char) : Except DateFault (TimeOfDay × List Char) := do
  let (hour, s) ← digitsOr .time .hour s
  let s ← afterMark .time .minuteMark ':' s
  let (minute, s) ← digitsOr .time .minute s
  let (second, places, s) ← readSeconds s
  demand .time .hourDigits (hour.length = 2)
  demand .time .minuteDigits (minute.length = 2)
  demand .time .secondDigits (second.all (·.length = 2))
  let nanosecond := decimalOf ((places ++ Decimal.zeros 9).take 9)
  let time : TimeOfDay :=
    ⟨decimalOf hour, decimalOf minute, (second.map decimalOf).getD 0, nanosecond⟩
  demand .time .hourRange (time.hour ≤ 23)
  demand .time .minuteRange (time.minute ≤ 59)
  demand .time .secondRange (time.second ≤ 60)
  return (time, s)

end TimeOfDay

namespace UtcOffset

/-- The hours and minutes of an offset at the front of a text, and the rest. -/
def readBy (negative : Bool) (s : List Char) : Except DateFault (UtcOffset × List Char) := do
  let (hours, s) ← digitsOr .offset .hour s
  let s ← afterMark .offset .minuteMark ':' s
  let (minutes, s) ← digitsOr .offset .minute s
  demand .offset .hourDigits (hours.length = 2)
  demand .offset .minuteDigits (minutes.length = 2)
  demand .offset .offsetHourRange (decimalOf hours ≤ 23)
  demand .offset .offsetMinuteRange (decimalOf minutes ≤ 59)
  return (.by negative (decimalOf hours) (decimalOf minutes), s)

/-- The offset at the front of a text, unless that is empty, and the rest. -/
def read (s : List Char) : Except DateFault (Option UtcOffset × List Char) := do
  match s with
  | [] => return (none, [])
  | c :: rest =>
    if c = 'Z' ∨ c = 'z' then return (some .zero, rest)
    else if c = '+' ∨ c = '-' then
      let (offset, rest) ← readBy (c = '-') rest
      return (some offset, rest)
    else throw ⟨.offset, some .offset⟩

end UtcOffset

namespace DateTime

/-- A value, if no text is left after it. -/
def complete (value : DateTime) : List Char → Except DateFault DateTime
  | [] => .ok value
  | _ => .error ⟨.all, none⟩

/-- The date or time that a text writes. -/
def ofText (s : List Char) : Except DateFault DateTime := do
  let (first, rest) ← digitsOr .all .yearOrHour s
  match rest with
  | '-' :: rest =>
    let (day, rest) ← Date.read first rest
    match rest with
    | [] => return .date day
    | c :: rest =>
      demand .junction .junction (c = 'T' ∨ c = 't' ∨ c = ' ')
      let (hours, rest) ← TimeOfDay.read rest
      let (offset, rest) ← UtcOffset.read rest
      complete (.both day hours offset) rest
  | ':' :: _ =>
    let (hours, rest) ← TimeOfDay.read s
    complete (.time hours) rest
  | _ => throw ⟨.all, some .firstMark⟩

end DateTime

/-! ## Writing -/

/-- A number with zeros before it up to a number of digits. -/
def padded (width n : Nat) : List Char :=
  let ds := Decimal.digits n
  Decimal.zeros (width - ds.length) ++ ds

/-- A date as text. -/
def Date.text (d : Date) : List Char :=
  padded 4 d.year ++ '-' :: padded 2 d.month ++ '-' :: padded 2 d.day

/-- A time of day as text. -/
def TimeOfDay.text (t : TimeOfDay) : List Char :=
  let places := ((padded 9 t.nanosecond).reverse.dropWhile (· = '0')).reverse
  padded 2 t.hour ++ ':' :: padded 2 t.minute ++ ':' :: padded 2 t.second ++
    if places.isEmpty then [] else '.' :: places

/-- An offset as text. An offset of no minutes is not negative. -/
def UtcOffset.text : UtcOffset → List Char
  | .zero => ['Z']
  | .by negative hours minutes =>
    (if negative ∧ 0 < hours + minutes then '-' else '+') :: padded 2 hours ++
      ':' :: padded 2 minutes

/-- A date or time as text. -/
def DateTime.text : DateTime → List Char
  | .date day => day.text
  | .time hours => hours.text
  | .both day hours offset => day.text ++ 'T' :: hours.text ++ (offset.map UtcOffset.text).getD []

end GasAdvisor.Toml
