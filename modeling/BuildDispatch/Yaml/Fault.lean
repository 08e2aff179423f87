import BuildDispatch.Value.Text

/-!
# Faults of a YAML text

Why a text yields no value. Text that breaks the rules of the format is `malformed`, whatever the
rule; the other causes lie in the octets, or in scalars whose form is right and whose content has no
value.
-/

namespace BuildDispatch.Yaml

open Text

inductive Fault
  | malformed
  /-- The octets are not UTF-8. -/
  | undecodable
  /-- An escape names a code point beyond the last one. -/
  | noSuchCodePoint
  /-- An escape names a number of 32 binary digits. -/
  | codePointTooLarge
  | notAWholeNumber (base : Nat) (text : Text)
  | tooManyDigits (count : Nat)
  | notADecimal (text : Text)
  | tooLargeForDouble
  | emptyNumber
  | notABoolean (text : Text)
  | notATimestamp
  /-- A mapping stands where the text of a date is read. -/
  | notAText
  /-- A mapping is its own default. -/
  | endless
  | yearOutOfRange (year : Nat)
  | monthOutOfRange
  | dayOutOfRange
  | hourOutOfRange
  | minuteOutOfRange
  | secondOutOfRange
  /-- An offset of a day or more; `length` is how it is written. -/
  | offsetOutOfRange (length : String)
deriving Repr, DecidableEq

/-- What may go wrong while a text is read. -/
abbrev Result (α : Type) := Except Fault α

/-- A quoted text as far as a message about a whole number shows it. -/
def shownText (t : Text) : Text := (quoted t).take 200

def Fault.message : Fault → Text
  | malformed => "malformed YAML"
  | undecodable => "not UTF-8"
  | noSuchCodePoint => "chr() arg not in range(0x110000)"
  | codePointTooLarge => "Python int too large to convert to C int"
  | notAWholeNumber base text =>
    "invalid literal for int() with base " ++ toString base ++ ": " ++ shownText text
  | tooManyDigits count =>
    digitComplaint ++ ": value has " ++ toString count ++ " digits; " ++ digitAdvice
  | notADecimal text => "could not convert string to float: " ++ quoted text
  | tooLargeForDouble => "int too large to convert to float"
  | emptyNumber => "string index out of range"
  | notABoolean text => quoted text
  | notATimestamp => "'NoneType' object has no attribute 'groupdict'"
  | notAText => "expected string or bytes-like object, got 'list'"
  | endless => "maximum recursion depth exceeded"
  | yearOutOfRange year => "year " ++ toString year ++ " is out of range"
  | monthOutOfRange => "month must be in 1..12"
  | dayOutOfRange => "day is out of range for month"
  | hourOutOfRange => "hour must be in 0..23"
  | minuteOutOfRange => "minute must be in 0..59"
  | secondOutOfRange => "second must be in 0..59"
  | offsetOutOfRange length =>
    "offset must be a timedelta strictly between -timedelta(hours=24) and timedelta(hours=24), not "
      ++ length ++ "."

end BuildDispatch.Yaml
