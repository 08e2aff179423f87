import BuildDispatch.Text

/-!
# Calendar

Dates of the proleptic Gregorian calendar, times of day, and moments with or without an offset
from UTC. Day numbers count from 1970-01-01, so that seconds since that day's midnight turn into
a date and a time of day.
-/

namespace BuildDispatch

namespace Calendar

def isLeap (year : Int) : Bool := year % 4 = 0 && (year % 100 != 0 || year % 400 = 0)

def daysInMonth (year : Int) (month : Nat) : Nat :=
  match month with
  | 2 => if isLeap year then 29 else 28
  | 4 | 6 | 9 | 11 => 30
  | _ => 31

end Calendar

structure Date where
  year : Int
  month : Nat
  day : Nat
deriving Repr, DecidableEq

namespace Date

/-- Days from 1970-01-01. Years are counted from March, so that a leap day ends its year. -/
def dayNumber (d : Date) : Int :=
  let y : Int := if d.month ≤ 2 then d.year - 1 else d.year
  let shifted : Int := (d.month + 9) % 12
  365 * y + y / 4 - y / 100 + y / 400 + (153 * shifted + 2) / 5 + (d.day : Int) - 1 - 719468

/-- The date that lies so many days from 1970-01-01. -/
def ofDayNumber (days : Int) : Date :=
  let z := days + 719468
  let era := z / 146097
  let doe := z % 146097
  let yoe := (doe - doe / 1460 + doe / 36524 - doe / 146096) / 365
  let doy := doe - (365 * yoe + yoe / 4 - yoe / 100)
  let shifted := (5 * doy + 2) / 153
  let day := doy - (153 * shifted + 2) / 5 + 1
  let month := if shifted < 10 then shifted + 3 else shifted - 9
  let year := yoe + era * 400 + (if month ≤ 2 then 1 else 0)
  ⟨year, month.toNat, day.toNat⟩

/-- The day of the week, Monday being 0. -/
def weekday (d : Date) : Nat := ((d.dayNumber + 3) % 7).toNat

end Date

structure TimeOfDay where
  hour : Nat
  minute : Nat
  second : Nat
  microsecond : Nat := 0
deriving Repr, DecidableEq

/-- A date and a time of day, with the local offset from UTC in minutes where it is known. -/
structure Moment where
  date : Date
  time : TimeOfDay
  offset : Option Int := none
deriving Repr, DecidableEq

namespace Moment

/-- The moment in UTC that lies so many seconds after the start of 1970. -/
def ofEpochSeconds (seconds : Int) : Moment :=
  let rest := (seconds % 86400).toNat
  { date := Date.ofDayNumber (seconds / 86400)
    time := { hour := rest / 3600, minute := rest / 60 % 60, second := rest % 60 }
    offset := some 0 }

/-- Microseconds since the start of 1970 by the moment's own clock, less its offset. -/
def instant (m : Moment) : Int :=
  let seconds := m.date.dayNumber * 86400 + m.time.hour * 3600 + m.time.minute * 60 + m.time.second
    - (m.offset.getD 0) * 60
  seconds * 1000000 + m.time.microsecond

/-- Moments with offsets agree when they are the same instant; without, when their fields do. -/
def agrees (a b : Moment) : Bool :=
  a.offset.isSome == b.offset.isSome && a.instant == b.instant

end Moment

/-- What a wall clock shows: a local date and time, and the name of its zone. -/
structure ClockReading where
  date : Date
  time : TimeOfDay
  zone : Text
deriving Repr, DecidableEq

end BuildDispatch
