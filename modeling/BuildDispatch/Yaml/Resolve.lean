import BuildDispatch.Text.Split
import BuildDispatch.Yaml.Cursor
import BuildDispatch.Yaml.Tag

/-!
# Scalars without a tag

The form of a plain scalar decides its tag: words for truth values and null, whole numbers in four
bases, decimal numbers, both also in base sixty, dates and times. Each form is a predicate on the
characters; what has none of the forms is text. A scalar in another style may ask for the same, and
one newline at its end is then no part of the form.
-/

namespace BuildDispatch.Yaml.Resolve

def boolWords : List String :=
  ["yes", "Yes", "YES", "no", "No", "NO", "true", "True", "TRUE", "false", "False", "FALSE",
    "on", "On", "ON", "off", "Off", "OFF"]

def nullWords : List String := ["~", "null", "Null", "NULL", ""]

def isDigitOrLine (c : Char) : Bool := isDigit c || c = '_'

def dropSign : List Char → List Char
  | '-' :: rest => rest
  | '+' :: rest => rest
  | rest => rest

/-- At least one character, all of which pass the test. -/
def allOf (test : Char → Bool) (text : List Char) : Bool := !text.isEmpty && text.all test

/-- A digit, then digits and underscores. -/
def isDigitRun : List Char → Bool
  | [] => false
  | c :: rest => isDigit c && rest.all isDigitOrLine

/-- The parts of a text between colons. -/
def splitColons (text : List Char) : List (List Char) := Text.splitOn ':' text

/-- One or two digits, below sixty. -/
def isSixtieth : List Char → Bool
  | [a] => isDigit a
  | [a, b] => '0' ≤ a && a ≤ '5' && isDigit b
  | _ => false

def isWhole (text : List Char) : Bool :=
  match dropSign text with
  | '0' :: 'b' :: rest => allOf (fun c => c = '0' || c = '1' || c = '_') rest
  | '0' :: 'x' :: rest => allOf (fun c => isHexDigit c || c = '_') rest
  | '0' :: rest => rest.all (fun c => ('0' ≤ c && c ≤ '7') || c = '_')
  | rest =>
    match splitColons rest with
    | [] => false
    | first :: parts => isDigitRun first && parts.all isSixtieth

/-- Nothing, or `e` with a signed exponent. -/
def isExponent : List Char → Bool
  | [] => true
  | e :: sign :: rest => (e = 'e' || e = 'E') && (sign = '-' || sign = '+') && allOf isDigit rest
  | _ => false

def isPointed (text : List Char) : Bool :=
  match text.dropWhile isDigitOrLine with
  | '.' :: rest =>
    isDigitRun (text.takeWhile isDigitOrLine) && isExponent (rest.dropWhile isDigitOrLine)
  | _ => false

/-- A fraction without digits before the point. -/
def isBareFraction : List Char → Bool
  | '.' :: rest =>
    isDigitRun (rest.takeWhile isDigitOrLine) && isExponent (rest.dropWhile isDigitOrLine)
  | _ => false

/-- Parts between colons, the last of which ends in a point and a fraction. -/
def isSexagesimal (text : List Char) : Bool :=
  let whole := text.takeWhile (· != '.')
  match text.dropWhile (· != '.') with
  | '.' :: fraction =>
    fraction.all isDigitOrLine &&
      (match splitColons whole with
        | first :: part :: parts => isDigitRun first && (part :: parts).all isSixtieth
        | _ => false)
  | _ => false

def infinityWords : List String := [".inf", ".Inf", ".INF"]

def nanWords : List String := [".nan", ".NaN", ".NAN"]

def isDecimal (text : List Char) : Bool :=
  isPointed (dropSign text) || isBareFraction text || isSexagesimal (dropSign text) ||
    infinityWords.contains (String.ofList (dropSign text)) ||
    nanWords.contains (String.ofList text)

/-! ### Dates and times -/

/-- Split off a row of digits, at least `least` and at most `most` of them. -/
def takeDigits (least most : Nat) (text : List Char) : Option (List Char × List Char) :=
  let digits := (text.take most).takeWhile isDigit
  if least ≤ digits.length then some (digits, text.drop digits.length) else none

def takeChar (c : Char) : List Char → Option (List Char)
  | [] => none
  | d :: rest => if d = c then some rest else none

/-- The parts of a written date, as digits; a time and an offset may be missing. -/
structure TimestampParts where
  year : List Char
  month : List Char
  day : List Char
  time : Option (List Char × List Char × List Char × List Char) := none
  /-- Sign, hours and minutes; for `Z` nothing, inside `some`. -/
  offset : Option (Option (Char × List Char × List Char)) := none

def offsetParts? (text : List Char) : Option (Option (Option (Char × List Char × List Char))) :=
  match text.dropWhile isBlank with
  | [] => if text.isEmpty then some none else none
  | ['Z'] => some (some none)
  | sign :: rest =>
    if sign = '-' ∨ sign = '+' then do
      let (hour, rest) ← takeDigits 1 2 rest
      match rest with
      | [] => some (some (some (sign, hour, [])))
      | ':' :: rest =>
        let (minute, rest) ← takeDigits 2 2 rest
        if rest.isEmpty then some (some (some (sign, hour, minute))) else none
      | _ => none
    else none

/-- What separates a date from a time: one letter, or blanks. -/
def dropTimeMark (text : List Char) : Option (List Char) :=
  match text with
  | 'T' :: rest => some rest
  | 't' :: rest => some rest
  | c :: rest => if isBlank c then some (rest.dropWhile isBlank) else none
  | [] => none

/-- The parts of a date, with months and days of one digit or two. -/
def timestampParts? (text : List Char) : Option TimestampParts := do
  let (year, rest) ← takeDigits 4 4 text
  let rest ← takeChar '-' rest
  let (month, rest) ← takeDigits 1 2 rest
  let rest ← takeChar '-' rest
  let (day, rest) ← takeDigits 1 2 rest
  if rest.isEmpty then some { year, month, day }
  else
    let rest ← dropTimeMark rest
    let (hour, rest) ← takeDigits 1 2 rest
    let rest ← takeChar ':' rest
    let (minute, rest) ← takeDigits 2 2 rest
    let rest ← takeChar ':' rest
    let (second, rest) ← takeDigits 2 2 rest
    let (fraction, rest) :=
      match rest with
      | '.' :: rest => (rest.takeWhile isDigit, rest.dropWhile isDigit)
      | rest => ([], rest)
    let offset ← offsetParts? rest
    some { year, month, day, time := some (hour, minute, second, fraction), offset }

/-- A date alone is written with two digits for month and day. -/
def isTimestamp (text : List Char) : Bool :=
  match timestampParts? text with
  | none => false
  | some parts =>
    parts.time.isSome || (parts.month.length = 2 && parts.day.length = 2)

/-- Scalars that stand for marks of the format have a tag of their own, and no value. -/
def markWords : List String := ["!", "&", "*"]

/-- The tag of a form. -/
def formTag (form : List Char) : Tag :=
  let word := String.ofList form
  if boolWords.contains word then .bool
  else if isDecimal form then .float
  else if isWhole form then .int
  else if word = "<<" then .merge
  else if nullWords.contains word then .null
  else if isTimestamp form then .timestamp
  else if word = "=" then .default
  else if markWords.contains word then .other (Tag.standardHead ++ "yaml")
  else .str

/-- A text without one newline at its end. -/
def withoutNewline (text : List Char) : List Char :=
  if text.getLast? = some '\n' then text.dropLast else text

/-- The tag that a scalar has by its form. A newline alone has no form. -/
def formTagOf (t : Text) : Tag :=
  if t = "\n" then .str else formTag (withoutNewline t.chars)

end BuildDispatch.Yaml.Resolve
