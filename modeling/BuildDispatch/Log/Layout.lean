import BuildDispatch.Calendar.Text
import BuildDispatch.Log.Level

/-!
# Log lines

How a record becomes a line: a layout of fixed text and fields, and colours for terminals. Colours
stand around the level name and the message alone, so that a coloured line differs from the plain
one by nothing but the sequences that switch colours.

All handlers of a logger format one and the same record, a `Sheet`, and leave on it what they make
of it. A formatter with colours works on a copy.
-/

namespace BuildDispatch.Log

inductive Field
  | time
  | level
  | source
  | message
deriving Repr, DecidableEq

inductive Piece
  | fixed (t : Text)
  | field (f : Field)
deriving Repr, DecidableEq

abbrev Layout := List Piece

namespace Layout

/-- The layout of a console: a level and a message. -/
def brief : Layout := [.fixed "[", .field .level, .fixed "] ", .field .message]

/-- The layout of a verbose console, with the time of day in front. -/
def timed : Layout := [.field .time, .fixed " "] ++ brief

/-- The layout of a log file. -/
def full : Layout :=
  [.field .time, .fixed " [", .field .level, .fixed "] ", .field .source, .fixed ": ",
    .field .message]

end Layout

/-! ### Colours -/

/-- The sequence that switches a terminal to a colour. -/
def colourCode (code : String) : String := "\x1b[" ++ code ++ "m"

def resetCode : String := colourCode "0"

/-- The colour of a level by its name; other names have the terminal's own. -/
def levelColour (levelName : Text) : String :=
  if levelName = "DEBUG" then colourCode "36"
  else if levelName = "INFO" then colourCode "32"
  else if levelName = "WARNING" then colourCode "33"
  else if levelName = "ERROR" then colourCode "31"
  else if levelName = "CRITICAL" then colourCode "35"
  else if levelName = "SUCCESS" then colourCode "92"
  else resetCode

/-- A text between the sequence for the colour of a level and the one that ends it. -/
def tint (levelName t : Text) : Text := levelColour levelName ++ t ++ resetCode

/-! ### Times -/

/-- The time of day, as consoles show it. -/
def clockText (seconds : Int) : String := (Moment.ofEpochSeconds seconds).time.text

/-- Date and time, as log files show them. -/
def dateText (seconds : Int) : String :=
  let m := Moment.ofEpochSeconds seconds
  m.date.plainText ++ " " ++ m.time.text

/-- How a time is written. -/
inductive TimeStyle
  | clock
  | dated
deriving Repr, DecidableEq

def TimeStyle.text (seconds : Int) : TimeStyle → Text
  | clock => clockText seconds
  | dated => dateText seconds

/-! ### Sheets -/

/-- A record as formatters get it. They read its fields and may write on them. -/
structure Sheet where
  level : Level
  source : Text
  /-- When the record was made, in seconds. -/
  created : Int
  levelName : Text
  text : Text
  /-- What a formatter last made of the text. -/
  message : Text := []
  /-- How a formatter last wrote the time. -/
  time : Text := []
deriving Repr, DecidableEq

/-- A record that no formatter has had. -/
def Record.sheet (r : Record) (now : Int) : Sheet :=
  { level := r.level, source := r.source, created := now, levelName := r.level.name
    text := r.message }

namespace Sheet

def fieldText (s : Sheet) : Field → Text
  | .time => s.time
  | .level => s.levelName
  | .source => s.source
  | .message => s.message

def pieceText (s : Sheet) : Piece → Text
  | .fixed t => t
  | .field f => s.fieldText f

/-- The line of a sheet as it stands, without the newline behind it. -/
def line (s : Sheet) (layout : Layout) : Text := layout.flatMap s.pieceText

/-- The sheet with colours around its level name and its text. -/
def tinted (s : Sheet) : Sheet :=
  { s with levelName := tint s.levelName s.levelName, text := tint s.levelName s.text }

/-- The sheet as it is shown, in colours or without. -/
def shown (s : Sheet) (coloured : Bool) : Sheet := if coloured then s.tinted else s

/-- Write the message on a sheet, and the time if the layout has one. -/
def complete (s : Sheet) (layout : Layout) (times : TimeStyle) : Sheet :=
  { s with
    message := s.text
    time := if .field .time ∈ layout then times.text s.created else s.time }

end Sheet

/-! ### Formatters -/

structure Formatter where
  layout : Layout
  times : TimeStyle
  coloured : Bool := false
deriving Repr, DecidableEq

namespace Formatter

/-- The line of a sheet in the colours that it has. -/
def formatPlain (f : Formatter) : StateM Sheet Text := do
  modify (·.complete f.layout f.times)
  return (← get).line f.layout

/-- The line of a sheet. For a line in colours the sheet is copied and stays as it is. -/
def format (f : Formatter) : StateM Sheet Text := do
  if f.coloured then return (f.formatPlain.run (← get).tinted).1
  else f.formatPlain

/-- The line that a formatter makes of a sheet. -/
def line (f : Formatter) (s : Sheet) : Text := (f.format.run s).1

end Formatter

end BuildDispatch.Log
