import BuildDispatch.Calendar
import BuildDispatch.Text.Columns

/-!
# Dates and times as text
-/

namespace BuildDispatch

open Text

namespace Date

/-- Month and day as in `01-05`. -/
def dayText (d : Date) : String := zeroPadded 2 d.month ++ "-" ++ zeroPadded 2 d.day

/-- Year, month and day as in `2024-01-05`, for years that are not negative. -/
def text (d : Date) : String := zeroPadded 4 d.year.toNat ++ "-" ++ d.dayText

/-- Year, month and day, the year as a plain number. -/
def plainText (d : Date) : String := toString d.year ++ "-" ++ d.dayText

def weekdayNames : List String := ["Mon", "Tue", "Wed", "Thu", "Fri", "Sat", "Sun"]

def monthNames : List String :=
  ["Jan", "Feb", "Mar", "Apr", "May", "Jun", "Jul", "Aug", "Sep", "Oct", "Nov", "Dec"]

def weekdayName (d : Date) : String := weekdayNames.getD d.weekday ""

def monthName (d : Date) : String := monthNames.getD (d.month - 1) ""

end Date

namespace TimeOfDay

/-- Hours, minutes and seconds as in `10:20:30`. -/
def text (t : TimeOfDay) : String :=
  zeroPadded 2 t.hour ++ ":" ++ zeroPadded 2 t.minute ++ ":" ++ zeroPadded 2 t.second

end TimeOfDay

namespace Moment

/-- An offset as in `+02:00`. -/
def offsetText (minutes : Int) : String :=
  (if minutes < 0 then "-" else "+") ++ zeroPadded 2 (minutes.natAbs / 60) ++ ":" ++
    zeroPadded 2 (minutes.natAbs % 60)

/-- Date and time with a blank between; a fraction only if there is one, an offset if known. -/
def text (m : Moment) : String :=
  m.date.text ++ " " ++ m.time.text ++
    (if m.time.microsecond = 0 then "" else "." ++ zeroPadded 6 m.time.microsecond) ++
    (match m.offset with
      | none => ""
      | some minutes => offsetText minutes)

end Moment

namespace ClockReading

/-- The name of a zone that lies so many minutes ahead of UTC and has no other name. -/
def zoneOfOffset (minutes : Int) : String :=
  if minutes = 0 then "UTC" else "UTC" ++ Moment.offsetText minutes

/-- Weekday, month, day padded with a blank, time, zone and year. -/
def text (c : ClockReading) : Text :=
  c.date.weekdayName ++ " " ++ c.date.monthName ++ " " ++ spacePadded 2 c.date.day ++ " " ++
    c.time.text ++ " " ++ c.zone ++ " " ++ toString c.date.year

end ClockReading

end BuildDispatch
