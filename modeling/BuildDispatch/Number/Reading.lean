import BuildDispatch.Number.Double
import BuildDispatch.Text.Blank
import BuildDispatch.Text.Digit

/-!
# Reading numbers

Whole numbers in a given base and decimal numbers, as they stand in a text with blanks around
them. Blanks and decimal digits of all scripts count as those of ASCII.
-/

namespace BuildDispatch.Number

/-- The ASCII character that counts for a blank or a decimal digit. -/
def narrow (c : Char) : Char :=
  if c.toNat < 0x80 then c
  else if Text.isWideBlank c then ' '
  else
    match Text.digitOf? c with
    | some d => Char.ofNat ('0'.toNat + d)
    | none => c

def isBlank (c : Char) : Bool :=
  c = ' ' || c = '\t' || c = '\n' || c = '\r' || c = '\x0b' || c = '\x0c'

/-- A text without the blanks at its two ends. -/
def trim (text : List Char) : List Char :=
  ((text.dropWhile isBlank).reverse.dropWhile isBlank).reverse

/-- The value of a digit or letter, `a` and `A` being ten. -/
def digitValue? (c : Char) : Option Nat :=
  if '0' ≤ c ∧ c ≤ '9' then some (c.toNat - '0'.toNat)
  else if 'a' ≤ c ∧ c ≤ 'z' then some (c.toNat - 'a'.toNat + 10)
  else if 'A' ≤ c ∧ c ≤ 'Z' then some (c.toNat - 'A'.toNat + 10)
  else none

def isDigit (c : Char) : Bool := '0' ≤ c && c ≤ '9'

/-- The value of a row of digits in a base, if all of them are digits of that base. -/
def foldDigits (base : Nat) (digits : List Char) : Option Nat :=
  digits.foldl (fun acc c => do
    let n ← acc
    let d ← digitValue? c
    if d < base then some (n * base + d) else none) (some 0)

def ofDigits? (base : Nat) (digits : List Char) : Option Nat :=
  if digits.isEmpty then none else foldDigits base digits

/-- Split off a sign: whether it is a minus, and the rest. -/
def takeSign : List Char → Bool × List Char
  | '-' :: rest => (true, rest)
  | '+' :: rest => (false, rest)
  | rest => (false, rest)

/-- The letter that may follow a zero in front of the digits of a base. -/
def baseMark? : Nat → Option Char
  | 2 => some 'b'
  | 8 => some 'o'
  | 16 => some 'x'
  | _ => none

def dropBaseMark (base : Nat) : List Char → List Char
  | '0' :: mark :: rest =>
    if baseMark? base = some mark.toLower then rest else '0' :: mark :: rest
  | rest => rest

/-- A whole number with an optional sign and, for base 2, 8 or 16, an optional mark. -/
def toInt? (base : Nat) (text : List Char) : Option Int :=
  let signed := takeSign (trim (text.map narrow))
  (ofDigits? base (dropBaseMark base signed.2)).map fun n => if signed.1 then -(n : Int) else n

/-- How many digits a whole number begins with. -/
def digitCount (text : List Char) : Nat :=
  ((takeSign (trim (text.map narrow))).2.takeWhile isDigit).length

/-- The exponent that ends a decimal number: nothing, or `e` with a whole number. -/
def exponent? : List Char → Option Int
  | [] => some 0
  | c :: rest =>
    if c.toLower = 'e' then
      let signed := takeSign rest
      (ofDigits? 10 signed.2).map fun n => if signed.1 then -(n : Int) else n
    else none

def unsignedDouble? (negative : Bool) (text : List Char) : Option Double :=
  let word := String.ofList (text.map Char.toLower)
  if word = "inf" ∨ word = "infinity" then some (.infinite negative)
  else if word = "nan" then some .nan
  else
    let whole := text.takeWhile isDigit
    let rest := text.dropWhile isDigit
    let fraction := if rest.head? = some '.' then (rest.drop 1).takeWhile isDigit else []
    let tail := if rest.head? = some '.' then (rest.drop 1).dropWhile isDigit else rest
    if whole.isEmpty && fraction.isEmpty then none
    else do
      let exponent ← exponent? tail
      let coefficient ← ofDigits? 10 (whole ++ fraction)
      some (.ofDecimal negative coefficient (exponent - fraction.length))

/-- A decimal number, an infinity or a not-a-number, with an optional sign. -/
def toDouble? (text : List Char) : Option Double :=
  let signed := takeSign (trim (text.map narrow))
  unsignedDouble? signed.1 signed.2

end BuildDispatch.Number
