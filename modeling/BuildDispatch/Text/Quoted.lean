import BuildDispatch.Text.Printable
import BuildDispatch.Text.Utf8

/-!
# Quoted text

How text is quoted inside messages and inside the text of lists: between single quotes, or
between double quotes when it holds a single quote and no double one. Backslashes, the chosen
quote, and code points that are not shown as they are, are escaped: as a rule those that cannot be
printed.
-/

namespace BuildDispatch.Text

def hexDigit (n : Nat) : Char :=
  if n < 10 then Char.ofNat (0x30 + n) else Char.ofNat (0x57 + n)

/-- The low `width` hexadecimal digits of a number. -/
def hexDigits (width n : Nat) : List Char :=
  match width with
  | 0 => []
  | w + 1 => hexDigits w (n / 16) ++ [hexDigit (n % 16)]

/-- The quote that encloses a text. -/
def quoteFor (t : Text) : CodePoint :=
  if t.contains '\x27' && !t.contains '"' then '"' else '\x27'

/-- A hexadecimal escape, of the shortest form that holds the number. -/
def numberEscape (code : Nat) : List Char :=
  if code < 0x100 then '\\' :: 'x' :: hexDigits 2 code
  else if code < 0x10000 then '\\' :: 'u' :: hexDigits 4 code
  else '\\' :: 'U' :: hexDigits 8 code

/-- The short escapes, else a hexadecimal one. -/
def escape (c : CodePoint) : Text :=
  if c = '\n' then "\\n"
  else if c = '\r' then "\\r"
  else if c = '\t' then "\\t"
  else ofChars (numberEscape c.toNat)

def quoteCodePoint (shown : CodePoint → Bool) (quote c : CodePoint) : Text :=
  if c = quote ∨ c = '\\' then ['\\', c] else if shown c then [c] else escape c

/-- A text between quotes, with the code points escaped that are not `shown`. -/
def quotedWith (shown : CodePoint → Bool) (t : Text) : Text :=
  let quote := quoteFor t
  quote :: t.flatMap (quoteCodePoint shown quote) ++ [quote]

def isShown : CodePoint → Bool
  | .char c => isPrintable c
  | .surrogate _ => false

/-- A text between quotes. -/
def quoted (t : Text) : Text := quotedWith isShown t

/-- A text with all escaped that is not ASCII. -/
def inAscii (t : Text) : Text :=
  t.flatMap fun c => if c.toNat < 0x80 then [c] else ofChars (numberEscape c.toNat)

def quoteOctet (quote : CodePoint) (b : UInt8) : Text :=
  let c : CodePoint := Char.ofNat b.toNat
  if c = quote ∨ c = '\\' then ['\\', c]
  else if 0x20 ≤ b.toNat ∧ b.toNat < 0x7F then [c]
  else escape c

/-- Octets between quotes, marked by a `b` in front; ASCII alone is written as it is. -/
def quotedOctets (octets : Octets) : Text :=
  let quote := quoteFor (octets.map fun b => .char (Char.ofNat b.toNat))
  "b" ++ quote :: octets.flatMap (quoteOctet quote) ++ [quote]

end BuildDispatch.Text

namespace BuildDispatch.Utf8.Unencodable

open Text

/-- Which code points stand in the way. -/
def message (u : Unencodable) : Text :=
  let start := u.before.length
  "\x27utf-8\x27 codec can\x27t encode " ++
    (if u.others.isEmpty then
      "character \x27" ++ escape u.first ++ "\x27 in position " ++ toString start
    else "characters in position " ++ toString start ++ "-" ++
      toString (start + u.others.length)) ++
    ": surrogates not allowed"

end BuildDispatch.Utf8.Unencodable
