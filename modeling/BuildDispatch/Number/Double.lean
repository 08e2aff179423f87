/-!
# Double precision numbers

A finite number is a sign, a mantissa below 2^53 and an exponent of two not below -1074; the
mantissa is at least 2^52 unless the exponent is the least one. `ofRatio` rounds a ratio of
natural numbers to the nearest such number, a tie to the even mantissa, and all else is built
from it, so that every result is the exact one rounded once.
-/

namespace BuildDispatch

inductive Double
  | nan
  | infinite (negative : Bool)
  /-- The number with this sign and the size `mantissa * 2 ^ exponent`. -/
  | finite (negative : Bool) (mantissa : Nat) (exponent : Int)
deriving Repr, DecidableEq

namespace Double

def leastExponent : Int := -1074

def greatestExponent : Int := 971

/-- The least mantissa of 53 binary digits. -/
def leastFullMantissa : Nat := 4503599627370496

/-- The ratio `num / den * base ^ k` as numerator and denominator. -/
def scaleRatio (base num den : Nat) (k : Int) : Nat × Nat :=
  if 0 ≤ k then (num * Nat.pow base k.toNat, den) else (num, den * Nat.pow base (-k).toNat)

/-- The greatest `k` with `2 ^ k ≤ num / den`, for a positive ratio. -/
def binaryOrder (num den : Nat) : Int :=
  let k : Int := (num.log2 : Int) - den.log2
  let ratio := scaleRatio 2 num den (-k)
  if ratio.2 ≤ ratio.1 then k else k - 1

/-- The integer nearest to a ratio, a tie going to the even one. -/
def roundHalfEven (num den : Nat) : Nat :=
  let q := num / den
  let r := num % den
  if den < 2 * r ∨ (2 * r = den ∧ q % 2 = 1) then q + 1 else q

/-- The number nearest to a ratio. -/
def ofRatio (negative : Bool) (num den : Nat) : Double :=
  if num = 0 then .finite negative 0 leastExponent
  else
    let exponent := max leastExponent (binaryOrder num den - 52)
    let ratio := scaleRatio 2 num den (-exponent)
    let mantissa := roundHalfEven ratio.1 ratio.2
    if mantissa = 2 * leastFullMantissa then
      if greatestExponent < exponent + 1 then .infinite negative
      else .finite negative leastFullMantissa (exponent + 1)
    else if greatestExponent < exponent then .infinite negative
    else .finite negative mantissa exponent

/-- The number nearest to `coefficient * 10 ^ exponent`. Exponents far out of range are settled
without computing the power. -/
def ofDecimal (negative : Bool) (coefficient : Nat) (exponent : Int) : Double :=
  let order : Int := exponent + (toString coefficient).length
  if coefficient = 0 ∨ order < -400 then ofRatio negative 0 1
  else if 400 < order then .infinite negative
  else
    let ratio := scaleRatio 10 coefficient 1 exponent
    ofRatio negative ratio.1 ratio.2

def ofNat (n : Nat) : Double := ofRatio false n 1

/-- The size of a finite number as a ratio. -/
def magnitude (mantissa : Nat) (exponent : Int) : Nat × Nat := scaleRatio 2 mantissa 1 exponent

def neg : Double → Double
  | nan => nan
  | infinite negative => infinite !negative
  | finite negative m e => finite (!negative) m e

def mul : Double → Double → Double
  | finite s m e, finite t n f =>
    let a := magnitude m e
    let b := magnitude n f
    ofRatio (s != t) (a.1 * b.1) (a.2 * b.2)
  | infinite s, infinite t => infinite (s != t)
  | infinite s, finite t n _ => if n = 0 then nan else infinite (s != t)
  | finite s m _, infinite t => if m = 0 then nan else infinite (s != t)
  | _, _ => nan

def add : Double → Double → Double
  | finite s m e, finite t n f =>
    let a := magnitude m e
    let b := magnitude n f
    let x : Int := (if s then -1 else 1) * (a.1 * b.2 : Nat)
    let y : Int := (if t then -1 else 1) * (b.1 * a.2 : Nat)
    if x + y = 0 then ofRatio (s && t) 0 1
    else ofRatio (x + y < 0) (x + y).natAbs (a.2 * b.2)
  | infinite s, infinite t => if s = t then infinite s else nan
  | infinite s, finite .. => infinite s
  | finite .., infinite t => infinite t
  | _, _ => nan

def isZero : Double → Bool
  | finite _ 0 _ => true
  | _ => false

/-- The integer that a number is equal to, if there is one. -/
def toInt? : Double → Option Int
  | finite negative m e =>
    let ratio := magnitude m e
    if ratio.1 % ratio.2 = 0 then
      let n : Int := (ratio.1 / ratio.2 : Nat)
      some (if negative then -n else n)
    else none
  | _ => none

/-- Whether two numbers are equal: the two zeros are, and `nan` is equal to nothing. -/
def agrees : Double → Double → Bool
  | nan, _ => false
  | a, b => (a.isZero && b.isZero) || a == b

/-- A number without its fraction; infinities and `nan` count as zero. -/
def truncate : Double → Int
  | finite negative m e =>
    let ratio := magnitude m e
    let n : Int := (ratio.1 / ratio.2 : Nat)
    if negative then -n else n
  | _ => 0

end Double
end BuildDispatch
