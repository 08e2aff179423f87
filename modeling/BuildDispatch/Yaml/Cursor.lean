import BuildDispatch.Yaml.Source

/-!
# Cursors

A place in a YAML text: the characters that follow, and the index, line and column. Past the end
of the text NUL is read, which no YAML text holds. Where the text cannot be read to its end, a look
beyond what can be had fails; a cursor never stands there.
-/

namespace BuildDispatch.Yaml

def isBreak (c : Char) : Bool := c = '\n' || c = '\x85' || c = '\u2028' || c = '\u2029'

def isEnd (c : Char) : Bool := c = '\x00'

/-- A line break or the end of the text. -/
def endsLine (c : Char) : Bool := isEnd c || isBreak c

/-- A space, a line break or the end of the text. -/
def endsWord (c : Char) : Bool := c = ' ' || endsLine c

def isBlank (c : Char) : Bool := c = ' ' || c = '\t'

/-- A blank, a line break or the end of the text. -/
def isGap (c : Char) : Bool := isBlank c || endsLine c

def isDigit (c : Char) : Bool := '0' ≤ c && c ≤ '9'

def isHexDigit (c : Char) : Bool :=
  isDigit c || ('a' ≤ c && c ≤ 'f') || ('A' ≤ c && c ≤ 'F')

/-- The number that some hexadecimal digits write. -/
def hexValue (digits : List Char) : Nat :=
  digits.foldl (fun n c =>
    16 * n + (if isDigit c then c.toNat - 48 else (c.toNat - 55) % 32)) 0

/-- The characters of the names of anchors, tag handles and directives. -/
def isNameChar (c : Char) : Bool :=
  isDigit c || ('a' ≤ c && c ≤ 'z') || ('A' ≤ c && c ≤ 'Z') || c = '-' || c = '_'

structure Cursor where
  rest : List Char
  index : Nat
  line : Nat
  column : Nat
  /-- What a look beyond the last character meets, if not the end of the text. -/
  wall : Option Fault := none
deriving Repr

namespace Cursor

/-- The start of a text. -/
def ofSource (s : Source) : Result Cursor :=
  match s.text, s.wall with
  | [], some fault => .error fault
  | text, wall => .ok { rest := text, index := 0, line := 0, column := 0, wall }

def here (c : Cursor) : Char := c.rest.headD '\x00'

/-- The character `n` places on. -/
def peek (c : Cursor) (n : Nat) : Result Char :=
  match c.rest.drop n, c.wall with
  | ch :: _, _ => .ok ch
  | [], none => .ok '\x00'
  | [], some fault => .error fault

/-- Pass one character. A byte order mark takes no column. -/
def step (c : Cursor) : Cursor :=
  match c.rest with
  | [] => c
  | ch :: rest =>
    if isBreak ch then { c with rest, index := c.index + 1, line := c.line + 1, column := 0 }
    else if ch = '\uFEFF' then { c with rest, index := c.index + 1 }
    else { c with rest, index := c.index + 1, column := c.column + 1 }

def steps (c : Cursor) : Nat → Cursor
  | 0 => c
  | n + 1 => c.step.steps n

/-- Pass some characters, up to one that can be had. -/
def advance (c : Cursor) (n : Nat) : Result Cursor := do
  let _ ← c.peek n
  .ok (c.steps n)

def next (c : Cursor) : Result Cursor := c.advance 1

/-- The characters up to the first that fails the test. -/
def run (test : Char → Bool) (c : Cursor) : Result (List Char) := do
  let text := c.rest.takeWhile test
  let _ ← c.peek text.length
  .ok text

/-- Pass the characters up to the first that fails the test. -/
def skip (test : Char → Bool) (c : Cursor) : Result Cursor := do
  let text ← c.run test
  c.advance text.length

/-- Pass spaces, but not beyond a column. -/
def skipSpacesTo (column : Nat) (c : Cursor) : Result Cursor :=
  c.advance (min (c.rest.takeWhile (· = ' ')).length (column - c.column))

/-- Pass a line break, if there is one. It reads as a newline, save the two separators of
Unicode, which stand for themselves. -/
def lineBreak (c : Cursor) : Result (List Char × Cursor) := do
  if c.here = '\n' ∨ c.here = '\x85' then .ok (['\n'], ← c.next)
  else if c.here = '\u2028' ∨ c.here = '\u2029' then .ok ([c.here], ← c.next)
  else .ok ([], c)

/-- Whether one of the two markers between documents stands here, with a gap behind it. -/
def atMarker (c : Cursor) : Result Bool := do
  let _ ← c.peek 2
  let mark := c.rest.take 3
  if mark = ['-', '-', '-'] ∨ mark = ['.', '.', '.'] then .ok (isGap (← c.peek 3)) else .ok false

/-- Pass blanks and a comment up to the end of the line, where nothing else may stand. -/
def finishLine (c : Cursor) : Result Cursor := do
  let c ← c.skip (· = ' ')
  let c ← if c.here = '#' then c.skip (fun ch => !endsLine ch) else .ok c
  if endsLine c.here then
    let (_, c) ← c.lineBreak
    .ok c
  else .error .malformed

end Cursor
end BuildDispatch.Yaml
