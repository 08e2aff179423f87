/-!
# Text

A text is a row of code points. Almost all code points are characters, but an escape in a
configuration file may also name a surrogate, which by itself stands for nothing and has no place in
UTF-8. Strings, which cannot hold surrogates, count as texts wherever a text is asked for.
-/

namespace BuildDispatch

inductive CodePoint
  | char (c : Char)
  /-- The surrogate that lies so far behind the first one. -/
  | surrogate (offset : Fin 2048)
deriving Repr, DecidableEq, Inhabited

abbrev Text := List CodePoint

namespace CodePoint

instance : Coe Char CodePoint := ⟨char⟩

def firstSurrogate : Nat := 0xD800

def toNat : CodePoint → Nat
  | char c => c.toNat
  | surrogate offset => firstSurrogate + offset.val

/-- The code point with a number, if there is one. -/
def ofNat? (n : Nat) : Option CodePoint :=
  if n.isValidChar then some (char (Char.ofNat n))
  else if firstSurrogate ≤ n ∧ n < firstSurrogate + 2048 then
    some (surrogate (Fin.ofNat 2048 (n - firstSurrogate)))
  else none

def isSurrogate : CodePoint → Bool
  | char _ => false
  | surrogate _ => true

/-- The character of a code point, with U+FFFD for a surrogate. -/
def toChar : CodePoint → Char
  | char c => c
  | surrogate _ => '\uFFFD'

@[simp] theorem toChar_char (c : Char) : (char c).toChar = c := rfl

end CodePoint

namespace Text

def ofChars (chars : List Char) : Text := chars.map .char

def ofString (s : String) : Text := ofChars s.toList

instance : Coe String Text := ⟨ofString⟩

/-- The characters of a text, with U+FFFD for each surrogate. -/
def chars (t : Text) : List Char := t.map CodePoint.toChar

/-- Texts one after the other, with a separator between them. -/
def joinWith (separator : Text) (parts : List Text) : Text := separator.intercalate parts

@[simp] theorem chars_ofChars (cs : List Char) : (ofChars cs).chars = cs := by
  simp [chars, ofChars, Function.comp_def]

theorem ofChars_append (cs ds : List Char) : ofChars (cs ++ ds) = ofChars cs ++ ofChars ds := by
  simp [ofChars]

end Text
end BuildDispatch
