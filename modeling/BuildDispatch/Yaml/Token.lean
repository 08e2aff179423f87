import BuildDispatch.Yaml.Name
import BuildDispatch.Yaml.Scalar

/-!
# Tokens

A YAML text as a list of tokens. Where indentation opens and closes a collection, tokens of their
own say so. A fault in the text stops the list, and whoever can do with the tokens in front of it
never meets the fault.

A key needs no mark in front of it: that something is a key shows only at the colon behind it.
Wherever a key may begin, its place among the tokens is kept as a candidate, one for each open
flow collection and one for the block around them. A colon turns the candidate into a key by
putting a `key` token at that place. A candidate lapses at the end of its line and after 1024
characters; one that stands where only a key may stand must not lapse. The tokens from the first
candidate on are held back, for a `key` token may still come in front of them.
-/

namespace BuildDispatch.Yaml

inductive Token
  | directive (d : Directive)
  | documentStart
  | documentEnd
  | blockSequenceStart
  | blockMappingStart
  | blockEnd
  | flowSequenceStart
  | flowSequenceEnd
  | flowMappingStart
  | flowMappingEnd
  | entry
  | flowEntry
  | key
  | value
  | alias (name : Text)
  | anchor (name : Text)
  | tag (name : TagName)
  | scalar (text : Text) (isPlain : Bool)
deriving Repr, DecidableEq

/-- A place where a key may have begun. -/
structure Candidate where
  /-- How many tokens stand before it. -/
  place : Nat
  required : Bool
  index : Nat
  line : Nat
  column : Nat
deriving Repr

/-- The state between two tokens. -/
structure Scan where
  cursor : Cursor
  /-- The tokens so far, the latest first. -/
  emitted : List Token := []
  /-- How many there are. -/
  count : Nat := 0
  /-- The column of the innermost block collection, -1 outside of all. -/
  indent : Int := -1
  /-- The columns of the collections around it. -/
  outer : List Int := []
  /-- Whether a key may begin here. -/
  keyAllowed : Bool := true
  candidate : Option Candidate := none
  /-- The candidates of what surrounds each open flow collection, the innermost first. -/
  suspended : List (Option Candidate) := []
deriving Repr

namespace Scan

def inFlow (s : Scan) : Bool := !s.suspended.isEmpty

/-- Put tokens, the latest first, at a place among those emitted. -/
def insertAt (s : Scan) (place : Nat) (tokens : List Token) : Scan :=
  let later := s.count - place
  { s with
    emitted := s.emitted.take later ++ tokens ++ s.emitted.drop later
    count := s.count + tokens.length }

def emit (s : Scan) (t : Token) : Scan := { s with emitted := t :: s.emitted, count := s.count + 1 }

/-! ### Candidates -/

def Lapsed (s : Scan) (c : Candidate) : Prop :=
  c.line ≠ s.cursor.line ∨ 1024 < s.cursor.index - c.index

instance (s : Scan) (c : Candidate) : Decidable (s.Lapsed c) :=
  inferInstanceAs (Decidable (_ ∨ _))

def keepUnlapsed (s : Scan) : Option Candidate → Result (Option Candidate)
  | none => .ok none
  | some c =>
    if s.Lapsed c then (if c.required then .error .malformed else .ok none) else .ok (some c)

/-- Forget the candidates that have lapsed. -/
def dropLapsed (s : Scan) : Result Scan := do
  let candidate ← s.keepUnlapsed s.candidate
  let suspended ← s.suspended.mapM s.keepUnlapsed
  .ok { s with candidate, suspended }

/-- Give up the candidate, which must not have been required. -/
def dropCandidate (s : Scan) : Result Scan :=
  match s.candidate with
  | some c => if c.required then .error .malformed else .ok { s with candidate := none }
  | none => .ok s

/-- Make this place a candidate, if a key may begin here. -/
def saveCandidate (s : Scan) : Result Scan :=
  if s.keyAllowed then do
    let s ← s.dropCandidate
    .ok { s with
      candidate := some
        { place := s.count
          required := !s.inFlow && s.indent == s.cursor.column
          index := s.cursor.index
          line := s.cursor.line
          column := s.cursor.column } }
  else .ok s

/-! ### Indentation -/

/-- Close the block collections that stand further to the right than a column. -/
def closeBlocks (s : Scan) (column : Int) : List Int → Scan
  | [] => if column < s.indent then { s.emit .blockEnd with indent := -1, outer := [] } else s
  | before :: outer =>
    if column < s.indent then
      closeBlocks { s.emit .blockEnd with indent := before, outer } column outer
    else s

/-- Inside a flow collection indentation means nothing. -/
def unwind (s : Scan) (column : Int) : Scan :=
  if s.inFlow then s else s.closeBlocks column s.outer

/-- Whether a collection at this column lies deeper than the innermost. -/
def deepens (s : Scan) (column : Nat) : Bool := !s.inFlow && s.indent < column

def openBlock (s : Scan) (column : Nat) : Scan :=
  { s with indent := column, outer := s.indent :: s.outer }

/-- Open a block collection at the present column, if it lies deeper than the innermost. -/
def openBlockHere (s : Scan) (opening : Token) : Scan :=
  if s.deepens s.cursor.column then (s.openBlock s.cursor.column).emit opening else s

/-! ### Tokens -/

def pass (s : Scan) (n : Nat) : Result Scan := do .ok { s with cursor := ← s.cursor.advance n }

def allowKey (s : Scan) (allowed : Bool) : Scan := { s with keyAllowed := allowed }

/-- What stands between documents ends every block. -/
def betweenDocuments (s : Scan) : Result Scan := do
  let s ← (s.unwind (-1)).dropCandidate
  .ok (s.allowKey false)

def flowStart (s : Scan) (t : Token) : Result Scan := do
  let s ← s.saveCandidate
  let s ← s.pass 1
  .ok ({ s with candidate := none, suspended := s.candidate :: s.suspended, keyAllowed := true }.emit
    t)

def flowEnd (s : Scan) (t : Token) : Result Scan := do
  let s ← s.dropCandidate
  let s ← s.pass 1
  match s.suspended with
  | [] => .error .malformed
  | candidate :: suspended =>
    .ok ({ s with candidate, suspended, keyAllowed := false }.emit t)

def flowEntryToken (s : Scan) : Result Scan := do
  let s ← (s.allowKey true).dropCandidate
  .ok ((← s.pass 1).emit .flowEntry)

def entryToken (s : Scan) : Result Scan := do
  if !s.inFlow && !s.keyAllowed then .error .malformed
  else
    let s := s.openBlockHere .blockSequenceStart
    let s ← (s.allowKey true).dropCandidate
    .ok ((← s.pass 1).emit .entry)

def keyToken (s : Scan) : Result Scan := do
  if !s.inFlow && !s.keyAllowed then .error .malformed
  else
    let s := s.openBlockHere .blockMappingStart
    let s ← (s.allowKey (!s.inFlow)).dropCandidate
    .ok ((← s.pass 1).emit .key)

/-- A colon: with a candidate in force it shows that the candidate was a key. -/
def valueToken (s : Scan) : Result Scan := do
  match s.candidate with
  | some c =>
    let s := { s with candidate := none }
    let s :=
      if s.deepens c.column then
        (s.insertAt c.place [.key, .blockMappingStart]).openBlock c.column
      else s.insertAt c.place [.key]
    .ok ((← (s.allowKey false).pass 1).emit .value)
  | none =>
    if !s.inFlow && !s.keyAllowed then .error .malformed
    else
      let s := s.openBlockHere .blockMappingStart
      .ok ((← (s.allowKey (!s.inFlow)).pass 1).emit .value)

/-- Read a lexeme that may be a key or belong to one. -/
def lexeme {α : Type} (s : Scan) (read : Cursor → Result (α × Cursor)) (token : α → Token) :
    Result Scan := do
  let s ← s.saveCandidate
  let (a, cursor) ← read s.cursor
  .ok (({ s with cursor }.allowKey false).emit (token a))

def blockScalarToken (s : Scan) (folded : Bool) : Result Scan := do
  let s ← (s.allowKey true).dropCandidate
  let (text, cursor) ← s.cursor.blockScalar folded s.indent
  .ok ({ s with cursor }.emit (.scalar text false))

/-- A plain scalar. Where a line ended behind it a key may follow. -/
def plainToken (s : Scan) : Result Scan := do
  let s ← s.saveCandidate
  let (text, broken, cursor) ← s.cursor.plain s.inFlow (s.indent + 1)
  .ok (({ s with cursor }.allowKey broken).emit (.scalar text true))

/-- The marks that begin no plain scalar, unless a few of them stand in front of a word. -/
def isMark (c : Char) : Bool := "-?:,[]{}#&*!|>\x27\"%@\x60".toList.contains c

/-- Whether a plain scalar may begin here. -/
def plainBegins (s : Scan) : Result Bool := do
  let c := s.cursor.here
  if isMark c || isGap c then
    let after ← s.cursor.peek 1
    .ok (!isGap after && (c = '-' || (!s.inFlow && (c = '?' || c = ':'))))
  else .ok true

/-- Whether the mark here stands by itself: inside a flow collection always, outside of one with a
gap behind it. -/
def standsAlone (s : Scan) : Result Bool := do
  if s.inFlow then .ok true else .ok (isGap (← s.cursor.peek 1))

/-- Read a lexeme that begins with a character which marks it; without such a mark it is a plain
scalar. -/
def markedToken (s : Scan) : Result Scan := do
  let c := s.cursor.here
  if c = '*' then s.lexeme Cursor.anchorName .alias
  else if c = '&' then s.lexeme Cursor.anchorName .anchor
  else if c = '!' then s.lexeme Cursor.tagName .tag
  else if c = '|' ∧ !s.inFlow then s.blockScalarToken false
  else if c = '>' ∧ !s.inFlow then s.blockScalarToken true
  else if c = '\x27' then s.lexeme (Cursor.quotedScalar false) (.scalar · false)
  else if c = '"' then s.lexeme (Cursor.quotedScalar true) (.scalar · false)
  else if ← s.plainBegins then s.plainToken
  else .error .malformed

/-- Read what begins with a mark of structure, or a lexeme. -/
def innerToken (s : Scan) : Result Scan := do
  let c := s.cursor.here
  if c = '[' then s.flowStart .flowSequenceStart
  else if c = '{' then s.flowStart .flowMappingStart
  else if c = ']' then s.flowEnd .flowSequenceEnd
  else if c = '}' then s.flowEnd .flowMappingEnd
  else if c = ',' then s.flowEntryToken
  else if c = '-' then
    if isGap (← s.cursor.peek 1) then s.entryToken else s.markedToken
  else if c = '?' then
    if ← s.standsAlone then s.keyToken else s.markedToken
  else if c = ':' then
    if ← s.standsAlone then s.valueToken else s.markedToken
  else s.markedToken

/-- Read the next token, at the first character of which the cursor stands. -/
def token (s : Scan) : Result Scan := do
  let c := s.cursor.here
  if s.cursor.column ≠ 0 then s.innerToken
  else if c = '%' then
    let s ← s.betweenDocuments
    let (d, cursor) ← s.cursor.directive
    .ok ({ s with cursor }.emit (.directive d))
  else if c = '-' ∨ c = '.' then
    if ← s.cursor.atMarker then
      let s ← s.betweenDocuments
      .ok ((← s.pass 3).emit (if c = '-' then .documentStart else .documentEnd))
    else s.innerToken
  else s.innerToken

/-- Pass spaces, comments and line breaks. Behind a break outside of flow a key may begin. -/
def skipGap : Nat → Scan → Result Scan
  | 0, s => .ok s
  | fuel + 1, s => do
    let cursor ← s.cursor.skip (· = ' ')
    let cursor ← if cursor.here = '#' then cursor.skip (fun ch => !endsLine ch) else .ok cursor
    if isBreak cursor.here then
      let (_, cursor) ← cursor.lineBreak
      let s := { s with cursor }
      skipGap fuel (if s.inFlow then s else s.allowKey true)
    else .ok { s with cursor }

/-- The end of the text ends every block. -/
def finish (s : Scan) : Result Scan := (s.unwind (-1)).dropCandidate

/-- Read on up to the next token, or to the end, which the answer tells. -/
def fetch (fuel : Nat) (s : Scan) : Result (Scan × Bool) := do
  let s ← (← s.skipGap fuel).dropLapsed
  let s := s.unwind s.cursor.column
  if isEnd s.cursor.here then .ok (← s.finish, true) else .ok (← s.token, false)

end Scan

/-! ### All tokens -/

/-- The tokens of a text, and what stops whoever asks for more. Without a fault the text ends behind
them. -/
structure Tokens where
  list : List Token
  stop : Option Fault := none
deriving Repr

namespace Scan

/-- How many tokens stand in front of all candidates. -/
def released (s : Scan) : Nat :=
  (s.candidate :: s.suspended).foldl
    (fun n c => match c with
      | some c => min n c.place
      | none => n) s.count

/-- The first tokens, up to a fault. -/
def stopAt (s : Scan) (count : Nat) (fault : Fault) : Tokens :=
  ⟨s.emitted.reverse.take count, some fault⟩

/-- Go on to the end. Of the tokens so far, `before` could be had without going on. The fuel lasts
as long as the text does, for tokens and for what stands between them. -/
def run : Nat → Nat → Scan → Tokens
  | 0, before, s => s.stopAt before .malformed
  | fuel + 1, before, s =>
    match s.dropLapsed with
    | .error fault => s.stopAt before fault
    | .ok s =>
      match s.fetch (fuel + 1) with
      | .error fault => s.stopAt s.released fault
      | .ok (next, true) => ⟨next.emitted.reverse, none⟩
      | .ok (next, false) => run fuel s.released next

end Scan

namespace Tokens

/-- The tokens of a text. A byte order mark may stand in front of it. -/
def ofSource (source : Source) : Tokens :=
  let found : Result Tokens := do
    let start ← Cursor.ofSource source
    let cursor ← if start.here = '\uFEFF' then start.next else .ok start
    .ok (Scan.run (source.text.length + 1) 0 { cursor })
  match found with
  | .ok tokens => tokens
  | .error fault => ⟨[], some fault⟩

end Tokens
end BuildDispatch.Yaml
