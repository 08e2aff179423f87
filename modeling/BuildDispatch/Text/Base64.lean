import BuildDispatch.Text.Utf8

/-!
# Base 64

Reading octets from the 64 letters of the alphabet, four letters for three octets. Other
characters are passed over. The text is whole when its letters fill groups of four, or when
padding fills up the last one; what stands behind such padding is not read.
-/

namespace BuildDispatch.Text.Base64

/-- The six bits that a letter stands for. -/
def letterValue? (c : Char) : Option Nat :=
  if 'A' ≤ c ∧ c ≤ 'Z' then some (c.toNat - 'A'.toNat)
  else if 'a' ≤ c ∧ c ≤ 'z' then some (c.toNat - 'a'.toNat + 26)
  else if '0' ≤ c ∧ c ≤ '9' then some (c.toNat - '0'.toNat + 52)
  else if c = '+' then some 62
  else if c = '/' then some 63
  else none

/-- Read on with `group` letters of the last group read, the bits of them that no octet holds yet
in `left`, and `pads` signs of padding behind them. -/
def decodeFrom (group left pads : Nat) : List Char → Option Octets
  | [] => if group = 0 then some [] else none
  | c :: rest =>
    if c = '=' then
      if 2 ≤ group then
        if 4 ≤ group + pads + 1 then some [] else decodeFrom group left (pads + 1) rest
      else decodeFrom group left pads rest
    else
      match letterValue? c with
      | none => decodeFrom group left pads rest
      | some n =>
        match group with
        | 0 => decodeFrom 1 n 0 rest
        | 1 => (decodeFrom 2 (n % 16) 0 rest).map (UInt8.ofNat (left * 4 + n / 16) :: ·)
        | 2 => (decodeFrom 3 (n % 4) 0 rest).map (UInt8.ofNat (left * 16 + n / 4) :: ·)
        | _ => (decodeFrom 0 0 0 rest).map (UInt8.ofNat (left * 64 + n) :: ·)

def decode? (text : List Char) : Option Octets := decodeFrom 0 0 0 text

end BuildDispatch.Text.Base64
