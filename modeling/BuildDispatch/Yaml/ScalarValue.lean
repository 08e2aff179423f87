import BuildDispatch.Number.Reading
import BuildDispatch.Text.Base64
import BuildDispatch.Text.Lowercase
import BuildDispatch.Yaml.Resolve
import BuildDispatch.Yaml.Fault

/-!
# Values of scalars

What a scalar writes. Its tag says how its text is read, and a text that has been asked for under a
tag need not have the form that the tag belongs to.
-/

namespace BuildDispatch.Yaml

open Number Resolve

/-! ### Whole numbers -/

def wholeNumber (base : Nat) (text : Text) : Result Int :=
  let count := digitCount text.chars
  if base = 10 ∧ digitLimit < count then .error (.tooManyDigits count)
  else
    match toInt? base text.chars with
    | some n => .ok n
    | none => .error (.notAWholeNumber base text)

def isMinus (c : CodePoint) : Bool := c = '-'

def isSign (c : CodePoint) : Bool := c = '-' || c = '+'

/-- Underscores between digits mean nothing. -/
def withoutUnderscores (t : Text) : Text := t.filter fun c => c != .char '_'

/-- A sign in front makes a number negative. -/
def signed : Text → Result (Bool × Text)
  | [] => .error .emptyNumber
  | c :: rest => .ok (isMinus c, if isSign c then rest else c :: rest)

/-- The parts of a text between colons. -/
def colonParts (t : Text) : List Text := Text.splitOn (.char ':') t

/-- Whether a text begins with a zero, and what follows it. -/
def behindZero? : Text → Option Text
  | .char '0' :: rest => some rest
  | _ => none

def unsignedInt (t : Text) : Result Int :=
  match t, behindZero? t with
  | [], _ => .error .emptyNumber
  | _, some [] => .ok 0
  | _, some (.char 'b' :: rest) => wholeNumber 2 rest
  | _, some (.char 'x' :: rest) => wholeNumber 16 rest
  | _, some _ => wholeNumber 8 t
  | _, none => do
    let parts ← (colonParts t).mapM (wholeNumber 10)
    .ok (parts.foldl (fun n part => 60 * n + part) 0)

/-- A whole number: in base two, eight, ten or sixteen, or in base sixty between colons. -/
def intOf (t : Text) : Result Int := do
  let (negative, rest) ← signed (withoutUnderscores t)
  let n ← unsignedInt rest
  .ok (if negative then -n else n)

/-! ### Decimal numbers -/

def decimal (t : Text) : Result Double :=
  match toDouble? t.chars with
  | some x => .ok x
  | none => .error (.notADecimal t)

/-- Parts in base sixty, the least first, each times its power of sixty, which has to be within the
range of a double. -/
def sumSixtieths : Nat → Double → List Double → Result Double
  | _, sum, [] => .ok sum
  | power, sum, part :: rest =>
    match Double.ofNat power with
    | .infinite _ => .error .tooLargeForDouble
    | factor => sumSixtieths (power * 60) (sum.add (part.mul factor)) rest

/-- A number without a sign. The plain `nan` has no sign and is always the same value. -/
def unsignedFloat (t : Text) : Result Double :=
  if t = ".inf" then .ok (.infinite false)
  else if t.contains (.char ':') then do
    let parts ← (colonParts t).mapM decimal
    sumSixtieths 1 (.ofNat 0) parts.reverse
  else decimal t

/-- A decimal number; nothing for the plain `nan`. -/
def floatOf (t : Text) : Result (Option Double) := do
  let (negative, rest) ← signed (Text.lowercase (withoutUnderscores t))
  if rest = ".nan" then .ok none
  else
    let x ← unsignedFloat rest
    .ok (some (if negative then x.neg else x))

/-! ### Truth values -/

def trueWords : List Text := ["yes", "true", "on"]

def falseWords : List Text := ["no", "false", "off"]

def boolOf (t : Text) : Result Bool :=
  let word := Text.lowercase t
  if trueWords.contains word then .ok true
  else if falseWords.contains word then .ok false
  else .error (.notABoolean word)

/-! ### Dates and times -/

def digitsOf (digits : List Char) : Nat :=
  digits.foldl (fun n d => 10 * n + (d.toNat - 48)) 0

def checkedDate (year month day : Nat) : Result Date :=
  if year = 0 then .error (.yearOutOfRange year)
  else if month = 0 ∨ 12 < month then .error .monthOutOfRange
  else if day = 0 ∨ Calendar.daysInMonth year month < day then .error .dayOutOfRange
  else .ok ⟨year, month, day⟩

def checkedTime (hour minute second microsecond : Nat) : Result TimeOfDay :=
  if 23 < hour then .error .hourOutOfRange
  else if 59 < minute then .error .minuteOutOfRange
  else if 59 < second then .error .secondOutOfRange
  else .ok { hour, minute, second, microsecond }

/-- The first six digits of a fraction, as millionths. -/
def millionths (fraction : List Char) : Nat :=
  digitsOf ((fraction ++ List.replicate 6 '0').take 6)

/-- An offset in minutes, less than a day to either side. -/
def checkedOffset : Option (Option (Char × List Char × List Char)) → Result (Option Int)
  | none => .ok none
  | some none => .ok (some 0)
  | some (some (sign, hour, minute)) =>
    let size : Int := (digitsOf hour * 60 + digitsOf minute : Nat)
    let offset := if sign = '-' then -size else size
    if size < 1440 then .ok (some offset)
    else .error (.offsetOutOfRange (Moment.lengthLiteral offset))

def timestampOf (t : Text) : Result (Date ⊕ Moment) :=
  match timestampParts? (withoutNewline t.chars) with
  | none => .error .notATimestamp
  | some parts =>
    match parts.time with
    | none => do
      let d ← checkedDate (digitsOf parts.year) (digitsOf parts.month) (digitsOf parts.day)
      .ok (.inl d)
    | some (hour, minute, second, fraction) => do
      let offset ← checkedOffset parts.offset
      let date ← checkedDate (digitsOf parts.year) (digitsOf parts.month) (digitsOf parts.day)
      let time ←
        checkedTime (digitsOf hour) (digitsOf minute) (digitsOf second) (millionths fraction)
      .ok (.inr { date, time, offset })

/-! ### Octets -/

/-- Octets in base 64; code points outside of ASCII may not occur. -/
def binaryOf (t : Text) : Result Octets :=
  if t.all (fun c => c.toNat < 128) then
    match Text.Base64.decode? t.chars with
    | some octets => .ok octets
    | none => .error .malformed
  else .error .malformed

/-! ### By tag -/

/-- The value that a text has under a tag; nothing for the plain `nan`. Tags without a meaning for
scalars have no value. -/
def scalarShape (tag : Tag) (t : Text) : Result (Option (Shape Place)) :=
  match tag with
  | .null => .ok (some .null)
  | .bool => (boolOf t).map fun b => some (.bool b)
  | .int => (intOf t).map fun n => some (.int n)
  | .float => (floatOf t).map fun x => x.map .float
  | .binary => (binaryOf t).map fun octets => some (.bytes octets)
  | .timestamp => (timestampOf t).map fun
    | .inl d => some (.date d)
    | .inr m => some (.moment m)
  | .str => .ok (some (.str t))
  | _ => .error .malformed

end BuildDispatch.Yaml
