/-!
# Dates and times

A date of the proleptic Gregorian calendar, and a date with a time of day that may know its offset
from universal time.  Only the checked constructors `Date.make` and `DateTime.make` judge whether
the numbers name a day and a time; the smallest unit at fault is not searched for, the order of the
checks is year, month, day, hour, minute, second.
-/
namespace Conform

/-- Why numbers do not name a date, a time or an offset. -/
inductive CalendarError where
  | year (given : Nat)
  | month
  | day
  | hour
  | minute
  | second
  | offset (seconds : Int)
deriving DecidableEq, Repr, Inhabited

/-- A day of the calendar. -/
structure Date where
  year : Nat
  month : Nat
  day : Nat
deriving DecidableEq, Repr, Inhabited

/-- A day and a time of day; `offset` is in seconds east of universal time. -/
structure DateTime where
  date : Date
  hour : Nat
  minute : Nat
  second : Nat
  microsecond : Nat
  offset : Option Int
deriving DecidableEq, Repr, Inhabited

def isLeapYear (year : Nat) : Bool := year % 4 == 0 && (year % 100 != 0 || year % 400 == 0)

def daysInMonth (year month : Nat) : Nat :=
  if month = 2 then (if isLeapYear year then 29 else 28)
  else if month = 4 ∨ month = 6 ∨ month = 9 ∨ month = 11 then 30 else 31

/-- A number with leading zeros up to a width. -/
def padded (width n : Nat) : String :=
  let ds := toString n
  String.ofList (List.replicate (width - ds.length) '0') ++ ds

namespace Date

/-- The date of the given numbers, if there is one in the years 1 to 9999. -/
def make (year month day : Nat) : Except CalendarError Date :=
  if year < 1 ∨ 9999 < year then .error (.year year)
  else if month < 1 ∨ 12 < month then .error .month
  else if day < 1 ∨ daysInMonth year month < day then .error .day
  else .ok ⟨year, month, day⟩

def daysBeforeYear (year : Nat) : Nat :=
  let y := year - 1
  y * 365 + y / 4 - y / 100 + y / 400

/-- The number of days in the first months of a year. -/
def daysInMonths (year : Nat) : Nat → Nat
  | 0 => 0
  | months + 1 => daysInMonths year months + daysInMonth year (months + 1)

/-- The number of the day, counted from the first day of year 1. -/
def dayNumber (d : Date) : Nat := daysBeforeYear d.year + daysInMonths d.year (d.month - 1) + d.day

/-- Year, month and day with dashes. -/
def isoText (d : Date) : String :=
  padded 4 d.year ++ "-" ++ padded 2 d.month ++ "-" ++ padded 2 d.day

/-- The date as it is shown inside other values. -/
def literal (d : Date) : String := s!"datetime.date({d.year}, {d.month}, {d.day})"

end Date

/-- A span of time as it is shown inside other values: whole days rounded down, then seconds. -/
def durationLiteral (seconds : Int) : String :=
  let days := seconds / 86400
  let rest := seconds % 86400
  let parts := (if days = 0 then [] else [s!"days={days}"])
    ++ (if rest = 0 then [] else [s!"seconds={rest}"])
  let inner := if parts.isEmpty then "0" else ", ".intercalate parts
  s!"datetime.timedelta({inner})"

namespace DateTime

/-- Offsets stay below a day in either direction. -/
def checkOffset (seconds : Int) : Except CalendarError Int :=
  if -86400 < seconds ∧ seconds < 86400 then .ok seconds else .error (.offset seconds)

/-- The date and time of the given numbers, if there is one. -/
def make (year month day hour minute second microsecond : Nat) (offset : Option Int) :
    Except CalendarError DateTime := do
  let date ← Date.make year month day
  if 23 < hour then .error .hour
  else if 59 < minute then .error .minute
  else if 59 < second then .error .second
  else .ok ⟨date, hour, minute, second, microsecond, offset⟩

/-- Microseconds from the first day of year 1, on the clock of the time itself. -/
def clock (t : DateTime) : Int :=
  (((t.date.dayNumber * 24 + t.hour) * 60 + t.minute) * 60 + t.second) * 1000000 + t.microsecond

/-- The instant, for a time that knows its offset. -/
def instant? (t : DateTime) : Option Int := t.offset.map fun s => t.clock - s * 1000000

/-- Two times with offsets are equal if they are the same instant, two without if their clocks
agree; a time with an offset never equals one without. -/
def sameTime (a b : DateTime) : Bool :=
  match a.instant?, b.instant? with
  | some x, some y => x == y
  | none, none => a.clock == b.clock
  | _, _ => false

/-- The offset as signed hours and minutes, and seconds if there are any. -/
def offsetText (seconds : Int) : String :=
  let sign := if seconds < 0 then "-" else "+"
  let s := seconds.natAbs
  let base := sign ++ padded 2 (s / 3600) ++ ":" ++ padded 2 (s / 60 % 60)
  if s % 60 = 0 then base else base ++ ":" ++ padded 2 (s % 60)

/-- Date and time joined by a separator, with the offset if there is one. -/
def isoText (separator : String) (t : DateTime) : String :=
  let time := padded 2 t.hour ++ ":" ++ padded 2 t.minute ++ ":" ++ padded 2 t.second
  let fraction := if t.microsecond = 0 then "" else "." ++ padded 6 t.microsecond
  t.date.isoText ++ separator ++ time ++ fraction ++ (t.offset.map offsetText).getD ""

/-- The time zone as it is shown inside other values. -/
def zoneLiteral (seconds : Int) : String :=
  if seconds = 0 then "datetime.timezone.utc"
  else s!"datetime.timezone({durationLiteral seconds})"

/-- The date and time as it is shown inside other values: seconds and microseconds are left out
when they are zero, the seconds only if the microseconds are too. -/
def literal (t : DateTime) : String :=
  let numbers := [t.date.year, t.date.month, t.date.day, t.hour, t.minute]
    ++ (if t.microsecond ≠ 0 then [t.second, t.microsecond]
        else if t.second ≠ 0 then [t.second] else [])
  let zone := (t.offset.map fun s => s!", tzinfo={zoneLiteral s}").getD ""
  "datetime.datetime(" ++ ", ".intercalate (numbers.map toString) ++ zone ++ ")"

end DateTime

namespace CalendarError

/-- What is wrong, in words. -/
def message : CalendarError → String
  | year given => s!"year {given} is out of range"
  | month => "month must be in 1..12"
  | day => "day is out of range for month"
  | hour => "hour must be in 0..23"
  | minute => "minute must be in 0..59"
  | second => "second must be in 0..59"
  | offset seconds =>
    "offset must be a timedelta strictly between -timedelta(hours=24) and timedelta(hours=24), not "
      ++ durationLiteral seconds ++ "."

end CalendarError

end Conform
