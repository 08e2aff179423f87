import BuildDispatch.Yaml.Fault

/-!
# Reading a file

The characters of a file are loaded in blocks, and no block before it is needed: whoever stops early
never learns what is wrong with a later one. A block that holds a character which no YAML text may
hold is malformed as a whole, and so is one whose octets cannot be decoded.

Octets are decoded in chunks, larger than a block of characters. A chunk with a fault in it yields
no characters at all, so the block that needs the first of them is the one that fails.
-/

namespace BuildDispatch.Yaml

/-- A character that a YAML text may hold. -/
def isAllowed (c : Char) : Bool :=
  c = '\t' || c = '\n' || c = '\r' || (' ' ≤ c && c ≤ '~') || c = '\x85' ||
  ('\xa0' ≤ c && c.toNat ≤ 0xFFFD) || 0x10000 ≤ c.toNat

/-- Line breaks of other systems as newlines. -/
def unifyBreaks : List Char → List Char
  | '\r' :: '\n' :: rest => '\n' :: unifyBreaks rest
  | '\r' :: rest => '\n' :: unifyBreaks rest
  | c :: rest => c :: unifyBreaks rest
  | [] => []

/-- How many characters make a block. -/
def blockSize : Nat := 4096

/-- The characters that are loaded before any is looked at, which are two blocks. -/
def firstLoad : Nat := 8192

/-- The fewest octets that are decoded at a time. -/
def leastChunk : Nat := 8192

/-- The first character that is loaded together with another. -/
def loadStart (index : Nat) : Nat := if index < firstLoad then 0 else index - index % blockSize

/-- The characters of a file that can be loaded, and what stops whoever asks for more. Without a
fault the text ends behind them. -/
structure Source where
  text : List Char
  wall : Option Fault := none
deriving Repr

namespace Source

/-- The blocks in front of the first that holds a character that is not allowed. -/
def upToForbidden (text : List Char) (wall : Option Fault) : Source :=
  let index := text.findIdx (fun c => !isAllowed c)
  if index < text.length then ⟨text.take (loadStart index), some .malformed⟩ else ⟨text, wall⟩

def ofText (text : List Char) : Source := upToForbidden (unifyBreaks text) none

/-! ### Octets that are not UTF-8 -/

/-- The index of the octet that shows that something is ill-formed, which may be the end. -/
def faultIndex (state : Utf8.State) (index : Nat) : Octets → Nat
  | [] => index
  | b :: rest =>
    let (read, next) := Utf8.step state b
    if read.all Option.isSome then faultIndex next (index + 1) rest else index

/-- The characters of octets whose last character may be incomplete. A carriage return at the end is
held back, since a newline may follow. -/
def charactersOf (octets : Octets) : List Char :=
  let text := (Utf8.run .start octets).filterMap id
  unifyBreaks (if text.getLast? = some '\r' then text.dropLast else text)

/-- How many characters the chunks hold in front of the one with a fault at an index. The first
octet of the present chunk is `start`; `before` characters come from those in front of it, and
`ratio` octets made a character in the last one. -/
def charactersBefore (octets : Octets) (fault : Nat) : Nat → Nat → Nat → Double → Nat
  | 0, _, before, _ => before
  | fuel + 1, start, before, ratio =>
    let wanted := blockSize - before % blockSize
    let size := max leastChunk (ratio.mul (.ofNat wanted)).truncate.toNat
    let stop := min (start + size) octets.length
    if fault < stop ∨ octets.length ≤ start then before
    else
      let total := (charactersOf (octets.take stop)).length
      charactersBefore octets fault fuel stop total (.ofRatio false (stop - start) (total - before))

/-- The blocks in front of the one that cannot be decoded. -/
def ofIllFormed (octets : Octets) : Source :=
  let fault := faultIndex .start 0 octets
  let total := charactersBefore octets fault (octets.length + 1) 0 0 (.ofNat 0)
  let loaded := total - total % blockSize
  if loaded < firstLoad then ⟨[], some .undecodable⟩
  else upToForbidden ((charactersOf (octets.take fault)).take loaded) (some .undecodable)

def ofOctets (octets : Octets) : Source :=
  match Utf8.decode? octets with
  | some text => ofText text
  | none => ofIllFormed octets

end Source
end BuildDispatch.Yaml
