import BuildDispatch.Number.Text

/-!
# Styles of numbers

Doubles with a given number of digits: so many places behind the point, so many places and an
exponent, or so many digits in the shorter of these ways. Every digit is exact; what is left out
rounds to the nearest, a tie to the even digit. `alternate` keeps a point with no digits behind it,
and in the general style the zeros at the end.
-/

namespace BuildDispatch.Double

inductive Style
  | fixed
  | exponent
  | general
deriving Repr, DecidableEq

namespace Style

/-- Digits in front of a point and behind it. -/
def pointed (alternate : Bool) (whole fraction : List Char) : List Char :=
  whole ++ (if fraction.isEmpty && !alternate then [] else '.' :: fraction)

/-- A number in decimal digits, with zeros in front up to a count. -/
def digitsOf (count n : Nat) : List Char :=
  let digits := (toString n).toList
  zeros (count - digits.length) ++ digits

/-- A ratio with so many places behind the point. -/
def fixedDigits (alternate : Bool) (places num den : Nat) : List Char :=
  let ratio := scaleRatio 10 num den places
  let digits := digitsOf (places + 1) (roundHalfEven ratio.1 ratio.2)
  let point := digits.length - places
  pointed alternate (digits.take point) (digits.drop point)

/-- The first `count` digits of a ratio, and how many of them stand before the point, if the ratio
is one of whole numbers; below one, how many zeros follow the point, as a negative number. -/
def leadingDigits (count num den : Nat) : List Char × Int :=
  if num = 0 then (zeros count, 1)
  else
    let point := decimalOrder num den
    let ratio := scaleRatio 10 num den (count - point)
    let n := roundHalfEven ratio.1 ratio.2
    if n = Nat.pow 10 count then (digitsOf count (n / 10), point + 1) else (digitsOf count n, point)

/-- Digits with an exponent behind them, the first in front of the point. -/
def withExponent (alternate : Bool) (digits : List Char) (point : Int) : List Char :=
  pointed alternate (digits.take 1) (digits.drop 1) ++ exponentText (point - 1)

def exponentDigits (alternate : Bool) (places num den : Nat) : List Char :=
  let (digits, point) := leadingDigits (places + 1) num den
  withExponent alternate digits point

/-- Digits as they are, without an exponent. -/
def withoutExponent (alternate : Bool) (digits : List Char) (point : Int) : List Char :=
  if point ≤ 0 then pointed alternate ['0'] (zeros (-point).toNat ++ digits)
  else
    let whole := digits.take point.toNat
    pointed alternate (whole ++ zeros (point.toNat - whole.length)) (digits.drop point.toNat)

def generalDigits (alternate : Bool) (count num den : Nat) : List Char :=
  let count := max 1 count
  let (all, point) := leadingDigits count num den
  let digits := if alternate then all else all.take 1 ++ dropTrailingZeros (all.drop 1)
  if point ≤ -4 ∨ count < point then withExponent alternate digits point
  else withoutExponent alternate digits point

/-- The text of a double without its sign. -/
def unsignedText (s : Style) (alternate : Bool) (precision : Nat) : Double → List Char
  | .nan => ['n', 'a', 'n']
  | .infinite _ => ['i', 'n', 'f']
  | .finite _ m e =>
    let ratio := magnitude m e
    match s with
    | fixed => fixedDigits alternate precision ratio.1 ratio.2
    | exponent => exponentDigits alternate precision ratio.1 ratio.2
    | general => generalDigits alternate precision ratio.1 ratio.2

end Style

/-- Whether a minus stands in front of a double. -/
def isNegative : Double → Bool
  | nan => false
  | infinite negative => negative
  | finite negative .. => negative

end BuildDispatch.Double
