import BuildDispatch.Text

/-!
# UTF-8

Decoding as a machine that reads one octet at a time. Between characters it is in `start`; inside
a character it knows how many octets are missing and which range the next one must lie in. An
octet that does not fit ends the character begun so far as one ill-formed part and is then read
afresh, so each ill-formed part is as long as it can be. `decode?` refuses text with such a part,
`decodeLossy` writes one replacement character for each.
-/

namespace BuildDispatch

/-- A string of octets. -/
abbrev Octets := List UInt8

namespace Utf8

inductive State
  | start
  /-- `missing` further octets are due, the next one between `low` and `high`. -/
  | inside (missing low high code : Nat)
deriving Repr, DecidableEq

/-- What is read so far: a character, or `none` for an ill-formed part. -/
abbrev Reading := List (Option Char)

/-- Read the first octet of a character. -/
def lead (b : Nat) : Reading × State :=
  if b < 0x80 then ([some (Char.ofNat b)], .start)
  else if b < 0xC2 then ([none], .start)
  else if b < 0xE0 then ([], .inside 1 0x80 0xBF (b - 0xC0))
  else if b = 0xE0 then ([], .inside 2 0xA0 0xBF 0)
  else if b = 0xED then ([], .inside 2 0x80 0x9F 0xD)
  else if b < 0xF0 then ([], .inside 2 0x80 0xBF (b - 0xE0))
  else if b = 0xF0 then ([], .inside 3 0x90 0xBF 0)
  else if b < 0xF4 then ([], .inside 3 0x80 0xBF (b - 0xF0))
  else if b = 0xF4 then ([], .inside 3 0x80 0x8F 4)
  else ([none], .start)

def step : State → UInt8 → Reading × State
  | .start, b => lead b.toNat
  | .inside missing low high code, b =>
    if low ≤ b.toNat ∧ b.toNat ≤ high then
      match missing with
      | 0 | 1 => ([some (Char.ofNat (code * 64 + (b.toNat - 0x80)))], .start)
      | m + 2 => ([], .inside (m + 1) 0x80 0xBF (code * 64 + (b.toNat - 0x80)))
    else
      (none :: (lead b.toNat).1, (lead b.toNat).2)

/-- What the end of the octets leaves behind. -/
def flush : State → Reading
  | .start => []
  | .inside .. => [none]

def run : State → Octets → Reading
  | s, [] => flush s
  | s, b :: rest => (step s b).1 ++ run (step s b).2 rest

/-- The characters, unless some part is ill-formed. -/
def decode? (octets : Octets) : Option (List Char) := (run .start octets).mapM id

/-- The characters, with U+FFFD for each ill-formed part. -/
def decodeLossy (octets : Octets) : List Char :=
  (run .start octets).map (fun c => c.getD '\uFFFD')

/-- The octets of a code point. A surrogate has the three that its number gives; they are
ill-formed. -/
def octetsOf : CodePoint → Octets
  | .char c => String.utf8EncodeChar c
  | .surrogate offset =>
    [0xED, UInt8.ofNat (0xA0 + offset.val / 64), UInt8.ofNat (0x80 + offset.val % 64)]

def encode (t : Text) : Octets := t.flatMap octetsOf

/-! ### Texts without a form in UTF-8 -/

/-- The first row of surrogates in a text, and what stands in front of it. -/
structure Unencodable where
  before : Text
  first : CodePoint
  others : Text
deriving Repr, DecidableEq

def unencodable? (t : Text) : Option Unencodable :=
  match t.dropWhile (!·.isSurrogate) with
  | [] => none
  | c :: rest => some ⟨t.takeWhile (!·.isSurrogate), c, rest.takeWhile CodePoint.isSurrogate⟩

/-- The octets of a text, if all of it has a form in UTF-8. -/
def encodeStrict (t : Text) : Except Unencodable Octets :=
  match unencodable? t with
  | some u => .error u
  | none => .ok (encode t)

end Utf8
end BuildDispatch
