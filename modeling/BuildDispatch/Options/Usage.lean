import BuildDispatch.Options.Read
import BuildDispatch.Text.Blank
import BuildDispatch.Text.Columns

/-!
# Usage and help texts

The usage line names every option and the operation. It never fits a line, so options and operation
go on lines of their own behind the program's name, cut into parts where a line may be broken. Names
with blanks of the wrong kind in the wrong places make a usage that does not fall into parts. The
help text has a row for each, in two columns: the second begins two columns behind the longest entry
of the first, but not beyond column 24, and where an entry is too long for that its text begins on
the next line.
-/

namespace BuildDispatch.Options

open Text

def program : Text := "mlm-build"

/-- The columns of a terminal less a margin of two. -/
def lineWidth : Nat := 78

/-! ### Usage -/

/-- An option with its value, by its first name. -/
def Switch.usagePart (s : Switch) : Text :=
  "[" ++ s.names.headD [] ++ (match s.value with
    | some v => " " ++ v
    | none => []) ++ "]"

/-- The operation as a choice between names. -/
def choicesText (choices : List Text) : Text := "\x7b" ++ joinWith "," choices ++ "\x7d"

def isOpening (c : CodePoint) : Bool := c = '[' || c = '('

def isClosing (c : CodePoint) : Bool := c = ']' || c = ')'

/-- Drop the blank behind each opening bracket; `behind` says whether one was just passed. -/
def tightenOpening (behind : Bool) : Text → Text
  | [] => []
  | c :: rest =>
    if behind && c = ' ' then tightenOpening false rest
    else c :: tightenOpening (isOpening c) rest

/-- Drop the blank in front of each closing bracket. -/
def tightenClosing : Text → Text
  | [] => []
  | c :: rest =>
    if c = ' ' && (rest.head?.map isClosing).getD false then tightenClosing rest
    else c :: tightenClosing rest

/-- Drop brackets with nothing but blanks between them. The first argument counts the code points
to pass over, which belong to such brackets. -/
def dropEmptyBrackets : Nat → Text → Text
  | _, [] => []
  | n + 1, _ :: rest => dropEmptyBrackets n rest
  | 0, c :: rest =>
    let blanks := (rest.takeWhile (· = .char ' ')).length
    let closes := ((rest.drop blanks).head?.map isClosing).getD false
    if isOpening c && closes then dropEmptyBrackets (blanks + 1) rest
    else c :: dropEmptyBrackets 0 rest

/-- How much a round bracket holds in front of what follows it: all up to the last closing one that
no bar comes before. -/
def roundLength? (t : Text) : Option Nat :=
  let run := t.takeWhile fun c => c ≠ .char '|'
  if run.contains (.char ')') then some ((run.reverse.dropWhile fun c => c ≠ .char ')').length - 1)
  else none

/-- Drop round brackets around what has no bar in it. The first argument counts the code points up
to a bracket that is to be dropped. -/
def dropRoundBrackets : Option Nat → Text → Text
  | _, [] => []
  | some 0, _ :: rest => dropRoundBrackets none rest
  | some (n + 1), c :: rest => c :: dropRoundBrackets (some n) rest
  | none, c :: rest =>
    match if c = '(' then roundLength? rest else none with
    | some n => dropRoundBrackets (some n) rest
    | none => c :: dropRoundBrackets none rest

/-- A part of the usage without the blanks and brackets that mean nothing there. -/
def tidy (part : Text) : Text :=
  dropRoundBrackets none (dropEmptyBrackets 0 (tightenClosing (tightenOpening false part)))

def operationPart (choices : List Text) : Text := tidy ("[" ++ choicesText choices ++ "]")

/-! ### Parts of a usage -/

def isGap (c : CodePoint) : Bool := isBlank c.toChar

/-- The length of a text up to the first closing bracket of a kind that a blank or the end follows,
if there is one on the line. -/
def lengthToClosing? (closing : Char) : Text → Option Nat
  | [] => none
  | c :: rest =>
    if c = '\n' then none
    else if c = closing && (rest.head?.map isGap).getD true then some 1
    else (lengthToClosing? closing rest).map (· + 1)

/-- The closing bracket that belongs to an opening one. -/
def closingOf? (c : CodePoint) : Option Char :=
  if c = '(' then some ')' else if c = '[' then some ']' else none

/-- The length of the part that begins with a code point, beyond it: up to the closing bracket, or
up to the next blank. -/
def partLength (c : CodePoint) (rest : Text) : Nat :=
  let toGap := (rest.takeWhile fun d => !isGap d).length
  match closingOf? c with
  | some closing => (lengthToClosing? closing rest).getD toGap
  | none => toGap

/-- The parts of a usage, at most as many as the first argument says. -/
def partsFrom : Nat → Text → List Text
  | 0, _ | _, [] => []
  | n + 1, c :: rest =>
    if isGap c then partsFrom n rest
    else
      (c :: rest.take (partLength c rest)) :: partsFrom n (rest.drop (partLength c rest))

/-- The parts of a usage that stay together on a line. -/
def partsOf (t : Text) : List Text := partsFrom t.length t

/-- The parts of a usage, if nothing but single spaces stands between them. -/
def wholeParts? (t : Text) : Option (List Text) :=
  let parts := partsOf t
  if joinWith " " parts = t then some parts else none

def usageLead : Text := "usage: " ++ program ++ " "

def optionsUsage : Text := joinWith " " (switches.map Switch.usagePart)

/-- The usage text, without a newline behind it, if the usage falls into parts. -/
def usage? (choices : List Text) : Option Text := do
  let options ← wholeParts? optionsUsage
  let operation ← wholeParts? (operationPart choices)
  let indent := usageLead.length
  let lines := fill (lineWidth - indent) options ++ fill (lineWidth - indent) operation
  some (usageLead ++ joinWith ("\n" ++ spaces indent) lines)

/-! ### Help -/

def description : Text :=
  "mlm build system - links system RocksDB when present, otherwise builds the bundled copy"

def examples : List Text := [
  "Examples:",
  "  " ++ program ++ " test                     # Run tests, TracePoint lines hidden",
  "  " ++ program ++ " build                    # Release build",
  "  " ++ program ++ " --bundled check          # Ignore any system RocksDB",
  "  " ++ program ++ " --list                   # Show all operations",
  "        "]

/-- A row of the help text: what it is about, and the words about it. -/
structure HelpRow where
  entry : Text
  words : List Text

def wordsOf (t : Text) : List Text := splitOn (.char ' ') t

/-- The names of an option, each with its value. -/
def Switch.helpEntry (s : Switch) : Text :=
  joinWith ", " (s.names.map fun name =>
    match s.value with
    | some v => name ++ " " ++ v
    | none => name)

def operationRow (choices : List Text) : HelpRow := ⟨choicesText choices, wordsOf operationHelp⟩

def optionRows : List HelpRow := switches.map fun s => ⟨s.helpEntry, wordsOf s.help⟩

/-- The blanks in front of an entry. -/
def entryIndent : Nat := 2

/-- The column at which the words about the entries begin. -/
def helpColumn (rows : List HelpRow) : Nat :=
  min (rows.foldl (fun widest r => max widest r.entry.length) 0 + entryIndent + 2) 24

def HelpRow.text (column : Nat) (r : HelpRow) : Text :=
  let width := column - entryIndent - 2
  let lines := joinWith ("\n" ++ spaces column) (fill (lineWidth - column) r.words)
  spaces entryIndent ++
    (if r.entry.length ≤ width then padRight width r.entry ++ "  "
      else r.entry ++ "\n" ++ spaces column) ++ lines ++ "\n"

/-- No more than one empty line in a row. -/
def limitBreaks : Nat → Text → Text
  | _, [] => []
  | n, c :: rest =>
    if c = '\n' then (if n < 2 then c :: limitBreaks (n + 1) rest else limitBreaks n rest)
    else c :: limitBreaks 0 rest

/-- What follows the usage in the help text. -/
def helpSections (choices : List Text) : List Text :=
  let rows := operationRow choices :: optionRows
  let column := helpColumn rows
  [description ++ "\n",
    "positional arguments:\n" ++ (operationRow choices).text column,
    "options:\n" ++ optionRows.flatMap (HelpRow.text column),
    joinWith "\n" examples ++ "\n"]

/-- The help text: usage, description, a section for the operation and one for the options, and
examples. -/
def help? (choices : List Text) : Option Text := do
  let usage ← usage? choices
  some (limitBreaks 0 (joinWith "\n" ((usage ++ "\n") :: helpSections choices)))

end BuildDispatch.Options
