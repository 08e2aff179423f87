import BuildDispatch.Yaml.Name

/-!
# Scalars

The four ways in which a YAML text writes a scalar: plain, between single or double quotes, and as
a block of indented lines. Each reader gives the text that the scalar stands for; line breaks are
folded as the style demands.
-/

namespace BuildDispatch.Yaml.Cursor

/-! ### Folding -/

/-- What one line break and the empty lines behind it read as: a single break is a space, and
with empty lines behind it the break itself is dropped. -/
def fold (lineBreak breaks : List Char) : List Char :=
  (if lineBreak ≠ ['\n'] then lineBreak else if breaks.isEmpty then [' '] else []) ++ breaks

/-! ### Plain scalars -/

/-- Whether a plain scalar stops in front of `c`, where `after` follows. -/
def stopsPlain (flow : Bool) (c after : Char) : Bool :=
  isGap c ||
  (c = ':' && (isGap after || (flow && ",[]\x7b\x7d".toList.contains after))) ||
  (flow && ",?[]\x7b\x7d".toList.contains c)

def plainRun (flow : Bool) : List Char → List Char
  | [] => []
  | c :: rest => if stopsPlain flow c (rest.headD '\x00') then [] else c :: plainRun flow rest

/-- A word of a plain scalar. A colon is told from others by what follows it. -/
def plainWord (flow : Bool) (c : Cursor) : Result (List Char) := do
  if c.here = '#' then .ok []
  else
    let word := plainRun flow c.rest
    if (← c.peek word.length) = ':' then
      let _ ← c.peek (word.length + 1)
    .ok word

/-- The breaks of empty lines inside a plain scalar, or nothing if a marker ends the document. -/
def plainBreaks : Nat → Cursor → Result (Option (List Char) × Cursor)
  | 0, c => .ok (none, c)
  | fuel + 1, c => do
    if c.here = ' ' then plainBreaks fuel (← c.next)
    else if isBreak c.here then
      let (b, c) ← c.lineBreak
      if ← c.atMarker then .ok (none, c)
      else
        let (more, c) ← plainBreaks fuel c
        .ok (more.map (b ++ ·), c)
    else .ok (some [], c)

/-- What stands between two words of a plain scalar, and whether a line ends there. -/
def plainGap (c : Cursor) : Result (Option (List Char) × Bool × Cursor) := do
  let blanks ← c.run (· = ' ')
  let c ← c.advance blanks.length
  if isBreak c.here then
    let (b, c) ← c.lineBreak
    if ← c.atMarker then .ok (none, true, c)
    else
      let (breaks, c) ← plainBreaks (c.rest.length + 1) c
      .ok (breaks.map (fold b), true, c)
  else .ok (some blanks, false, c)

def plainFrom (flow : Bool) (indent : Int) :
    Nat → Bool → Cursor → Result (List Char × Bool × Cursor)
  | 0, broken, c => .ok ([], broken, c)
  | fuel + 1, broken, c => do
    let word ← c.plainWord flow
    if word.isEmpty then .ok ([], broken, c)
    else
      match ← (← c.advance word.length).plainGap with
      | (none, broken, c) => .ok (word, broken, c)
      | (some gap, broken, c) =>
        if gap.isEmpty || c.here = '#' || (!flow && (c.column : Int) < indent) then
          .ok (word, broken, c)
        else
          let (more, broken, c) ← plainFrom flow indent fuel broken c
          .ok (if more.isEmpty then word else word ++ gap ++ more, broken, c)

/-- A plain scalar, and whether a line ended behind its last word. -/
def plain (flow : Bool) (indent : Int) (c : Cursor) : Result (Text × Bool × Cursor) := do
  let (text, broken, c) ← plainFrom flow indent (c.rest.length + 1) false c
  .ok (Text.ofChars text, broken, c)

/-! ### Quoted scalars -/

/-- The character that a single letter stands for behind a backslash. -/
def shortEscape? : Char → Option Char
  | '0' => some '\x00'
  | 'a' => some '\x07'
  | 'b' => some '\x08'
  | 't' => some '\t'
  | '\t' => some '\t'
  | 'n' => some '\n'
  | 'v' => some '\x0b'
  | 'f' => some '\x0c'
  | 'r' => some '\r'
  | 'e' => some '\x1b'
  | ' ' => some ' '
  | '"' => some '"'
  | '\\' => some '\\'
  | '/' => some '/'
  | 'N' => some '\x85'
  | '_' => some '\xa0'
  | 'L' => some '\u2028'
  | 'P' => some '\u2029'
  | _ => none

/-- How many hexadecimal digits follow a letter behind a backslash. -/
def escapeWidth? : Char → Option Nat
  | 'x' => some 2
  | 'u' => some 4
  | 'U' => some 8
  | _ => none

/-- The code point with a number. -/
def codePoint (code : Nat) : Result CodePoint :=
  match CodePoint.ofNat? code with
  | some c => .ok c
  | none => .error (if code < 0x80000000 then .noSuchCodePoint else .codePointTooLarge)

/-- The breaks of empty lines inside quotes. A marker between documents may not stand there. -/
def quotedBreaks : Nat → Cursor → Result (List Char × Cursor)
  | 0, _ => .error .malformed
  | fuel + 1, c => do
    if ← c.atMarker then .error .malformed
    else
      let c ← c.skip isBlank
      if isBreak c.here then
        let (b, c) ← c.lineBreak
        let (more, c) ← quotedBreaks fuel c
        .ok (b ++ more, c)
      else .ok ([], c)

/-- An escape, behind its backslash. -/
def escape (c : Cursor) : Result (Text × Cursor) := do
  match shortEscape? c.here, escapeWidth? c.here with
  | some ch, _ => .ok ([.char ch], ← c.next)
  | none, some width =>
    let c ← c.next
    let digits ← c.hexDigits width
    let ch ← codePoint (hexValue digits)
    .ok ([ch], ← c.advance width)
  | none, none =>
    if isBreak c.here then
      let (_, c) ← c.lineBreak
      let (breaks, c) ← quotedBreaks (c.rest.length + 1) c
      .ok (Text.ofChars breaks, c)
    else .error .malformed

/-- A character that stands for itself between quotes of either kind. -/
def isInert (c : Char) : Bool := !(c = '\x27' || c = '"' || c = '\\' || isGap c)

/-- The text up to the next gap or the closing quote. -/
def quotedWord (double : Bool) : Nat → Cursor → Result (Text × Cursor)
  | 0, _ => .error .malformed
  | fuel + 1, c => do
    let inert ← c.run isInert
    let c ← c.advance inert.length
    let further (piece : Text) (c : Cursor) : Result (Text × Cursor) := do
      let (more, c) ← quotedWord double fuel c
      .ok (Text.ofChars inert ++ piece ++ more, c)
    if double then
      if c.here = '\x27' then further ['\x27'] (← c.next)
      else if c.here = '\\' then
        let (piece, c) ← (← c.next).escape
        further piece c
      else .ok (Text.ofChars inert, c)
    else if c.here = '\x27' then
      if (← c.peek 1) = '\x27' then further ['\x27'] (← c.advance 2)
      else .ok (Text.ofChars inert, c)
    else if c.here = '"' || c.here = '\\' then further [c.here] (← c.next)
    else .ok (Text.ofChars inert, c)

/-- The blanks or line breaks between two words inside quotes. -/
def quotedGap (c : Cursor) : Result (List Char × Cursor) := do
  let blanks ← c.run isBlank
  let c ← c.advance blanks.length
  if isEnd c.here then .error .malformed
  else if isBreak c.here then
    let (b, c) ← c.lineBreak
    let (breaks, c) ← quotedBreaks (c.rest.length + 1) c
    .ok (fold b breaks, c)
  else .ok (blanks, c)

def quotedFrom (double : Bool) : Nat → Cursor → Result (Text × Cursor)
  | 0, _ => .error .malformed
  | fuel + 1, c => do
    let (word, c) ← quotedWord double (c.rest.length + 1) c
    if c.here = (if double then '"' else '\x27') then .ok (word, ← c.next)
    else
      let (gap, c) ← c.quotedGap
      let (more, c) ← quotedFrom double fuel c
      .ok (word ++ Text.ofChars gap ++ more, c)

/-- A scalar between quotes, from the opening to behind the closing one. -/
def quotedScalar (double : Bool) (c : Cursor) : Result (Text × Cursor) := do
  quotedFrom double (c.rest.length + 1) (← c.next)

/-! ### Block scalars -/

/-- What happens to the line breaks at the end of a block. -/
inductive Chomping
  | clip
  | strip
  | keep
deriving Repr, DecidableEq

/-- The indicators behind the mark of a block: chomping and indentation, in either order. -/
structure BlockHeader where
  chomping : Chomping := .clip
  indent : Option Nat := none
deriving Repr

def chomping? (c : Char) : Option Chomping :=
  if c = '+' then some .keep else if c = '-' then some .strip else none

/-- An indentation indicator: a digit other than zero. -/
def indentIndicator (c : Cursor) : Result (Option Nat × Cursor) := do
  if isDigit c.here then
    if c.here = '0' then .error .malformed else .ok (some (c.here.toNat - 48), ← c.next)
  else .ok (none, c)

def blockHeader (c : Cursor) : Result (BlockHeader × Cursor) := do
  let (header, c) ←
    match chomping? c.here with
    | some chomping => do
      let (indent, c) ← (← c.next).indentIndicator
      Except.ok (BlockHeader.mk chomping indent, c)
    | none => do
      let (indent, c) ← c.indentIndicator
      match indent, chomping? c.here with
      | some _, some chomping => Except.ok (BlockHeader.mk chomping indent, ← c.next)
      | _, _ => Except.ok (BlockHeader.mk .clip indent, c)
  if endsWord c.here then .ok (header, c) else .error .malformed

/-- The breaks of the empty lines before a block's first line, and the greatest column that their
spaces and those of the first line reach. -/
def leadingBreaks : Nat → Nat → Cursor → Result (List Char × Nat × Cursor)
  | 0, reached, c => .ok ([], reached, c)
  | fuel + 1, reached, c => do
    if c.here = ' ' then
      let c ← c.next
      leadingBreaks fuel (max reached c.column) c
    else if isBreak c.here then
      let (b, c) ← c.lineBreak
      let (more, reached, c) ← leadingBreaks fuel reached c
      .ok (b ++ more, reached, c)
    else .ok ([], reached, c)

/-- The breaks of empty lines, each with at most `indent` spaces. -/
def blockBreaks (indent : Nat) : Nat → Cursor → Result (List Char × Cursor)
  | 0, c => .ok ([], c)
  | fuel + 1, c => do
    let c ← c.skipSpacesTo indent
    if isBreak c.here then
      let (b, c) ← c.lineBreak
      let (more, c) ← blockBreaks indent fuel c
      .ok (b ++ more, c)
    else .ok ([], c)

/-- A block's text without its end, the break of its last line, and the empty lines behind. -/
structure BlockBody where
  text : List Char
  lastBreak : List Char
  breaks : List Char

/-- Whether a line of the block begins here. -/
def inBlock (indent : Nat) (c : Cursor) : Bool := c.column = indent && !isEnd c.here

/-- The lines of a block. A folded block joins two lines that both begin with a character other
than a blank. -/
def blockLines (folded : Bool) (indent : Nat) :
    Nat → List Char → Cursor → Result (BlockBody × Cursor)
  | 0, breaks, c => .ok (⟨[], [], breaks⟩, c)
  | fuel + 1, breaks, c => do
    if c.inBlock indent then
      let joins := folded && !isBlank c.here
      let line ← c.run (fun ch => !endsLine ch)
      let (b, c) ← (← c.advance line.length).lineBreak
      let (emptyLines, c) ← blockBreaks indent (c.rest.length + 1) c
      if c.inBlock indent then
        let joint :=
          if joins && b = ['\n'] && !isBlank c.here then (if emptyLines.isEmpty then [' '] else [])
          else b
        let (body, c) ← blockLines folded indent fuel emptyLines c
        .ok ({ body with text := breaks ++ line ++ joint ++ body.text }, c)
      else .ok (⟨breaks ++ line, b, emptyLines⟩, c)
    else .ok (⟨[], [], breaks⟩, c)

def BlockBody.chomp (body : BlockBody) : Chomping → List Char
  | .strip => body.text
  | .clip => body.text ++ body.lastBreak
  | .keep => body.text ++ body.lastBreak ++ body.breaks

/-- A block scalar inside a collection at `indent`; outside of all, `indent` is -1. -/
def blockScalar (folded : Bool) (indent : Int) (c : Cursor) : Result (Text × Cursor) := do
  let (header, c) ← (← c.next).blockHeader
  let c ← c.finishLine
  let least := max 1 (indent + 1).toNat
  let (breaks, column, c) ←
    match header.indent with
    | some increment => do
      let column := least + increment - 1
      let (breaks, c) ← blockBreaks column (c.rest.length + 1) c
      Except.ok (breaks, column, c)
    | none => do
      let (breaks, reached, c) ← leadingBreaks (c.rest.length + 1) 0 c
      Except.ok (breaks, max least reached, c)
  let (body, c) ← blockLines folded column (c.rest.length + 1) breaks c
  .ok (Text.ofChars (body.chomp header.chomping), c)

end BuildDispatch.Yaml.Cursor
