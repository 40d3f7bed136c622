/-!
# Dates and times

Days of the Gregorian calendar and moments of a day, with an optional offset
from universal time, as a flow file may hold them. `Date.isValid` and
`Moment.isValid` say which combinations of numbers are dates and moments, and
`Date.ordinal` and `Moment.microseconds` put them in order.
-/

namespace Parley

structure Date where
  year : Nat
  month : Nat
  day : Nat
  deriving DecidableEq, Inhabited, Repr

/-- A time on a day. `offset` counts the minutes by which the clock is ahead of
    universal time, if the clock is known. -/
structure Moment where
  date : Date
  hour : Nat
  minute : Nat
  second : Nat
  microsecond : Nat
  offset : Option Int
  deriving DecidableEq, Inhabited, Repr

/-- The decimal digits of `n`, filled up with zeros to `width`. -/
def padded (width n : Nat) : String :=
  let ds := Nat.toDigits 10 n
  String.ofList (List.replicate (width - ds.length) '0' ++ ds)

namespace Date

def isLeap (year : Nat) : Bool :=
  year % 4 = 0 && (year % 100 ≠ 0 || year % 400 = 0)

def daysIn (year month : Nat) : Nat :=
  if month = 2 then if isLeap year then 29 else 28
  else if [4, 6, 9, 11].contains month then 30 else 31

/-- The numbers name a day of the years 1 to 9999. -/
def isValid (d : Date) : Bool :=
  1 ≤ d.year && d.year ≤ 9999 && 1 ≤ d.month && d.month ≤ 12 && 1 ≤ d.day
    && d.day ≤ daysIn d.year d.month

/-- The number of the day, counted from the first of the year 1. -/
def ordinal (d : Date) : Nat :=
  let past := d.year - 1
  let before := 365 * past + past / 4 - past / 100 + past / 400
  (List.range (d.month - 1)).foldl (fun days i => days + daysIn d.year (i + 1)) (before + d.day)

def text (d : Date) : String :=
  padded 4 d.year ++ "-" ++ padded 2 d.month ++ "-" ++ padded 2 d.day

/-- The date as it is written inside other values. -/
def literal (d : Date) : String :=
  "datetime.date(" ++ toString d.year ++ ", " ++ toString d.month ++ ", " ++ toString d.day ++ ")"

end Date

namespace Moment

/-- The numbers name a moment, with a clock less than a day off. -/
def isValid (m : Moment) : Bool :=
  m.date.isValid && m.hour < 24 && m.minute < 60 && m.second < 60 && m.microsecond < 1000000
    && (m.offset.all fun minutes => -1440 < minutes && minutes < 1440)

/-- The microseconds from the first day of the year 1, in universal time if the clock is
    known. -/
def microseconds (m : Moment) : Int :=
  let minutes := (m.date.ordinal * 24 + m.hour) * 60 + m.minute
  ((minutes - m.offset.getD 0) * 60 + m.second) * 1000000 + m.microsecond

/-- Both moments have a known clock, or neither has one. -/
def isComparable (a b : Moment) : Bool :=
  a.offset.isSome = b.offset.isSome

/-- An offset as a sign, hours and minutes. -/
def offsetText (minutes : Int) : String :=
  (if minutes < 0 then "-" else "+") ++ padded 2 (minutes.natAbs / 60) ++ ":"
    ++ padded 2 (minutes.natAbs % 60)

def text (m : Moment) : String :=
  m.date.text ++ " " ++ padded 2 m.hour ++ ":" ++ padded 2 m.minute ++ ":" ++ padded 2 m.second
    ++ (if m.microsecond = 0 then "" else "." ++ padded 6 m.microsecond)
    ++ (m.offset.map offsetText).getD ""

/-- A duration as it is written inside other values: whole days, rounded down,
    and the seconds left over. -/
def durationLiteral (minutes : Int) : String :=
  let days := Int.fdiv minutes 1440
  let seconds := (minutes % 1440) * 60
  let parts := (if days = 0 then [] else ["days=" ++ toString days])
    ++ (if seconds = 0 then [] else ["seconds=" ++ toString seconds])
  "datetime.timedelta(" ++ (if parts.isEmpty then "0" else ", ".intercalate parts) ++ ")"

/-- An offset as it is written inside other values. -/
def offsetLiteral (minutes : Int) : String :=
  if minutes = 0 then "datetime.timezone.utc"
  else "datetime.timezone(" ++ durationLiteral minutes ++ ")"

/-- The moment as it is written inside other values; seconds and microseconds
    are left out while they are zero. -/
def literal (m : Moment) : String :=
  let tail :=
    if m.microsecond ≠ 0 then [m.second, m.microsecond]
    else if m.second ≠ 0 then [m.second] else []
  let fields := [m.date.year, m.date.month, m.date.day, m.hour, m.minute] ++ tail
  let zone := (m.offset.map fun o => ", tzinfo=" ++ offsetLiteral o).getD ""
  "datetime.datetime(" ++ ", ".intercalate (fields.map toString) ++ zone ++ ")"

end Moment

end Parley
