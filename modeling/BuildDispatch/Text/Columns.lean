import BuildDispatch.Text

/-!
# Columns

Padding to a width, decimal numbers of a fixed width, and filling lines with words.
-/

namespace BuildDispatch.Text

def spaces (n : Nat) : Text := List.replicate n ' '

/-- Spaces after the text up to a width; a longer text stays as it is. -/
def padRight (width : Nat) (t : Text) : Text := t ++ spaces (width - t.length)

def padLeftWith (fill : Char) (width : Nat) (s : String) : String :=
  String.ofList (List.replicate (width - s.length) fill) ++ s

/-- A number with leading zeros up to a width. -/
def zeroPadded (width n : Nat) : String := padLeftWith '0' width (toString n)

def spacePadded (width n : Nat) : String := padLeftWith ' ' width (toString n)

/-- Fill lines with words behind a line begun, each line as long as it can be within `width`. -/
def fillFrom (width : Nat) (line : Text) : List Text → List Text
  | [] => [line]
  | word :: rest =>
    if line.length + 1 + word.length ≤ width then fillFrom width (line ++ " " ++ word) rest
    else line :: fillFrom width word rest

/-- Lines of at most `width` code points, one space between words; a longer word stands alone. -/
def fill (width : Nat) : List Text → List Text
  | [] => []
  | word :: rest => fillFrom width word rest

end BuildDispatch.Text
