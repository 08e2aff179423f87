import BuildDispatch.Number.Double

/-!
# Numbers as text

A double is written with the fewest decimal digits that read back as the same number, and of
those texts the nearest. Numbers from 10^-4 up to 10^16 are written in positional notation with
at least one digit after the point, all others with an exponent of at least two digits.
-/

namespace BuildDispatch

namespace Double

/-- The `k` with `10 ^ (k - 1) ≤ num / den < 10 ^ k`, for a positive ratio. The binary order times
log 2 is at most one off. -/
def decimalOrder (num den : Nat) : Int :=
  let guess : Int := binaryOrder num den * 1233 / 4096
  let reaches (k : Int) : Bool :=
    let power := scaleRatio 10 1 1 k
    power.1 * den ≤ num * power.2
  if reaches guess then (if reaches (guess + 1) then guess + 2 else guess + 1) else guess

/-- Of the two neighbours of a ratio among the multiples of `10 ^ (-places)`, the nearer of those
that satisfy `good`, a tie going to the even one. -/
def nearestMultiple (good : Nat → Bool) (num den : Nat) (places : Int) : Option Nat :=
  let ratio := scaleRatio 10 num den places
  let low := ratio.1 / ratio.2
  let rest := 2 * (ratio.1 % ratio.2)
  let lowFirst := rest < ratio.2 ∨ (rest = ratio.2 ∧ low % 2 = 0)
  if good low then
    if good (low + 1) then some (if lowFirst then low else low + 1) else some low
  else if good (low + 1) then some (low + 1) else none

/-- Try `count` and more digits, `tries` times. -/
def searchDigits (m : Nat) (e order : Int) : Nat → Nat → Nat × Int
  | 0, _ => (0, 0)
  | tries + 1, count =>
    let ratio := magnitude m e
    let places : Int := (count : Int) - order
    let good (c : Nat) : Bool := ofDecimal false c (-places) == finite false m e
    match nearestMultiple good ratio.1 ratio.2 places with
    | some c => (c, -places)
    | none => searchDigits m e order tries (count + 1)

/-- The shortest coefficient and its power of ten that read back as this number. Seventeen digits
always do. -/
def shortest (m : Nat) (e : Int) : Nat × Int :=
  if m = 0 then (0, 0)
  else
    let ratio := magnitude m e
    searchDigits m e (decimalOrder ratio.1 ratio.2) 17 1

/-- Digits without the zeros at their end. -/
def dropTrailingZeros (digits : List Char) : List Char :=
  (digits.reverse.dropWhile (· = '0')).reverse

def zeros (n : Nat) : List Char := List.replicate n '0'

/-- Digits in positional notation; `point` digits stand before the point. -/
def positional (digits : List Char) (point : Int) : List Char :=
  if point ≤ 0 then '0' :: '.' :: zeros (-point).toNat ++ digits
  else if digits.length ≤ point.toNat then digits ++ zeros (point.toNat - digits.length) ++ ['.', '0']
  else digits.take point.toNat ++ '.' :: digits.drop point.toNat

/-- An exponent behind digits: a sign and two digits or more. -/
def exponentText (exponent : Int) : List Char :=
  let size := (toString exponent.natAbs).toList
  ['e', if exponent < 0 then '-' else '+'] ++ zeros (2 - size.length) ++ size

/-- Digits with an exponent, one digit before the point. -/
def scientific (digits : List Char) (exponent : Int) : List Char :=
  digits.take 1 ++ (if digits.length ≤ 1 then [] else '.' :: digits.drop 1) ++ exponentText exponent

def unsignedText (m : Nat) (e : Int) : List Char :=
  if m = 0 then ['0', '.', '0']
  else
    let decimal := shortest m e
    let all := (toString decimal.1).toList
    let point : Int := all.length + decimal.2
    let digits := dropTrailingZeros all
    if -4 < point ∧ point ≤ 16 then positional digits point else scientific digits (point - 1)

def text : Double → String
  | nan => "nan"
  | infinite negative => if negative then "-inf" else "inf"
  | finite negative m e => String.ofList ((if negative then ['-'] else []) ++ unsignedText m e)

end Double
end BuildDispatch
