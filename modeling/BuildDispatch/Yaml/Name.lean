import BuildDispatch.Yaml.Cursor

/-!
# Names, tags and directives

The lexemes of a YAML text that carry no content: names of anchors, tags with or without a handle,
and directives.
-/

namespace BuildDispatch.Yaml

/-- A tag as it is written: a handle that a directive may have declared, and a suffix. Without a
handle the suffix is the whole tag. -/
structure TagName where
  handle : Option Text
  suffix : Text
deriving Repr, DecidableEq

inductive Directive
  | version (major : Nat)
  /-- From here on the handle stands for the text `head`. -/
  | tagHandle (handle head : Text)
  | other
deriving Repr, DecidableEq

/-- The value of a whole number in decimal digits, of which there may not be too many. -/
def decimalValue (digits : List Char) : Result Nat :=
  if digitLimit < digits.length then .error (.tooManyDigits digits.length)
  else .ok (digits.foldl (fun n d => 10 * n + (d.toNat - 48)) 0)

namespace Cursor

/-- A row of at least one name character. -/
def name (c : Cursor) : Result (List Char × Cursor) := do
  let text ← c.run isNameChar
  if text.isEmpty then .error .malformed else .ok (text, ← c.advance text.length)

/-- What may stand right behind the name of an anchor. -/
def endsAnchor (c : Char) : Bool :=
  isGap c || "?:,]\x7d%@\x60".toList.contains c

/-- The name behind the mark of an anchor or alias. -/
def anchorName (c : Cursor) : Result (Text × Cursor) := do
  let (text, c) ← (← c.next).name
  if endsAnchor c.here then .ok (Text.ofChars text, c) else .error .malformed

def isUriChar (c : Char) : Bool :=
  isNameChar c || ";/?:@&=+$,.!~*\x27()[]".toList.contains c

/-- A hexadecimal digit some places on. -/
def hexDigit (c : Cursor) (n : Nat) : Result Char := do
  let digit ← c.peek n
  if isHexDigit digit then .ok digit else .error .malformed

/-- So many hexadecimal digits. -/
def hexDigits (c : Cursor) (count : Nat) : Result (List Char) := (List.range count).mapM c.hexDigit

/-- The octets that a row of percent escapes stands for. -/
def percentOctets : Nat → Cursor → Result (Octets × Cursor)
  | 0, _ => .error .malformed
  | fuel + 1, c =>
    if c.here = '%' then do
      let c ← c.next
      let digits ← c.hexDigits 2
      let (more, c) ← percentOctets fuel (← c.advance 2)
      .ok (UInt8.ofNat (hexValue digits) :: more, c)
    else .ok ([], c)

def uriFrom : Nat → Cursor → Result (List Char × Cursor)
  | 0, _ => .error .malformed
  | fuel + 1, c => do
    let plain ← c.run isUriChar
    let c ← c.advance plain.length
    if c.here = '%' then
      let (octets, c) ← percentOctets (c.rest.length + 1) c
      match Utf8.decode? octets with
      | none => .error .malformed
      | some text =>
        let (more, c) ← uriFrom fuel c
        .ok (plain ++ text ++ more, c)
    else .ok (plain, c)

/-- A row of at least one URI character, percent escapes undone. -/
def uri (c : Cursor) : Result (Text × Cursor) := do
  let (text, c) ← uriFrom (c.rest.length + 1) c
  if text.isEmpty then .error .malformed else .ok (Text.ofChars text, c)

/-- A handle: one exclamation mark, or a name between two. -/
def tagHandle (c : Cursor) : Result (Text × Cursor) := do
  if c.here ≠ '!' then .error .malformed
  else if (← c.peek 1) = ' ' then .ok ("!", ← c.next)
  else
    let inner ← (c.steps 1).run isNameChar
    if (← c.peek (inner.length + 1)) = '!' then
      .ok (Text.ofChars ('!' :: inner ++ ['!']), ← c.advance (inner.length + 2))
    else .error .malformed

def tagNameUnchecked (c : Cursor) : Result (TagName × Cursor) := do
  let second ← c.peek 1
  if second = '<' then
    let (suffix, c) ← (← c.advance 2).uri
    if c.here = '>' then .ok (⟨none, suffix⟩, ← c.next) else .error .malformed
  else if isGap second then .ok (⟨none, "!"⟩, ← c.next)
  else
    let word ← (c.steps 1).run (fun ch => !(endsWord ch || ch = '!'))
    if (← c.peek (word.length + 1)) = '!' then
      let (handle, c) ← c.tagHandle
      let (suffix, c) ← c.uri
      .ok (⟨some handle, suffix⟩, c)
    else
      let (suffix, c) ← (← c.next).uri
      .ok (⟨some "!", suffix⟩, c)

/-- A tag and the end of its word. -/
def tagName (c : Cursor) : Result (TagName × Cursor) := do
  let (tag, c) ← c.tagNameUnchecked
  if endsWord c.here then .ok (tag, c) else .error .malformed

def digits (c : Cursor) : Result (Nat × Cursor) := do
  if isDigit c.here then
    let text ← c.run isDigit
    let n ← decimalValue text
    .ok (n, ← c.advance text.length)
  else .error .malformed

/-- Two numbers with a point between; the second makes no difference. -/
def version (c : Cursor) : Result (Directive × Cursor) := do
  let (major, c) ← (← c.skip (· = ' ')).digits
  if c.here ≠ '.' then .error .malformed
  else
    let (_, c) ← (← c.next).digits
    if endsWord c.here then .ok (.version major, c) else .error .malformed

def handleDeclaration (c : Cursor) : Result (Directive × Cursor) := do
  let (handle, c) ← (← c.skip (· = ' ')).tagHandle
  if c.here ≠ ' ' then .error .malformed
  else
    let (head, c) ← (← c.skip (· = ' ')).uri
    if endsWord c.here then .ok (.tagHandle handle head, c) else .error .malformed

/-- A directive and its line. Directives with unknown names are passed over. -/
def directive (c : Cursor) : Result (Directive × Cursor) := do
  let (text, c) ← (← c.next).name
  if !endsWord c.here then .error .malformed
  else
    let (d, c) ←
      if text = "YAML".toList then c.version
      else if text = "TAG".toList then c.handleDeclaration
      else do .ok (.other, ← c.skip (fun ch => !endsLine ch))
    .ok (d, ← c.finishLine)

end Cursor
end BuildDispatch.Yaml
