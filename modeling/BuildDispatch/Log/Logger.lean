import BuildDispatch.Bindings
import BuildDispatch.Log.Layout
import BuildDispatch.World

/-!
# Loggers

A logger writes to a console and, if asked, to a file as well. Both get the same records, the
console in the brief or the timed layout and perhaps in colours, the file in the full one. A console
takes any line; a file takes those that have a form in UTF-8 and loses the others.

All loggers share one list of handlers and one threshold. A logger that is opened takes the handlers
of the one before away and adds its own; the one for the file is missing where the disk does not let
it be opened. A `Journal` holds the handlers together with the texts of all consoles and files; a
record goes through the handlers in turn, and each formats the sheet that the ones before it have
had.
-/

namespace BuildDispatch.Log

structure Logger where
  verbose : Bool := false
  /-- Whether the console is a terminal. -/
  tty : Bool := false
  file : Option Text := none
deriving Repr, DecidableEq

/-- The source that the program's records name. -/
def rootSource : Text := "mlm_build"

namespace Logger

/-- The least level that the logger keeps. -/
def threshold (l : Logger) : Level := if l.verbose then .debug else .info

def keeps (l : Logger) (level : Level) : Bool := l.threshold ≤ level

/-- The file that the logger writes to, if it names one that can be had. -/
def fileOn (l : Logger) (d : Disk) : Option Text :=
  (l.file.filter fun name => (d.fault? name).isNone).map d.fileOf

/-- The directory that is made for the file. -/
def directoryOn (l : Logger) (d : Disk) : Option Text :=
  (l.file.map Disk.directoryOf).filter fun directory => (d.directoryFault directory).isNone

def layout (l : Logger) : Layout := if l.verbose then .timed else .brief

def consoleFormatter (l : Logger) : Formatter :=
  { layout := l.layout, times := .clock, coloured := l.tty }

def fileFormatter : Formatter := { layout := .full, times := .dated }

/-- A record's line on the console. -/
def consoleLine (l : Logger) (now : Int) (r : Record) : Text :=
  l.consoleFormatter.line (r.sheet now) ++ "\n"

/-- A record's line in the file. -/
def fileLine (now : Int) (r : Record) : Text := fileFormatter.line (r.sheet now) ++ "\n"

/-- What a file takes of a line: all of it, or nothing where it has no form in UTF-8. -/
def taken (line : Text) : Text := if (Utf8.unencodable? line).isNone then line else []

end Logger

/-! ### Handlers -/

/-- Where a handler writes. -/
inductive Target
  /-- The console of this number, from the oldest on. -/
  | console (number : Nat)
  | file (name : Text)
deriving Repr, DecidableEq

structure Handler where
  target : Target
  /-- The least level that it writes. -/
  level : Level
  formatter : Formatter
deriving Repr, DecidableEq

/-- The handlers in use, and the texts of consoles and files. -/
structure Journal where
  /-- The texts of the consoles, the oldest first. -/
  consoles : List Text := []
  files : Bindings Text := .empty
  /-- The directories made for files. -/
  directories : List Text := []
  /-- The least level of a record that gets to the handlers. -/
  threshold : Level := .warning
  handlers : List Handler := []
deriving Repr

namespace Journal

def appendToFile (files : Bindings Text) (file line : Text) : Bindings Text :=
  files.insert file ((files.find? file).getD [] ++ line)

def write (j : Journal) (line : Text) : Target → Journal
  | .console number => { j with consoles := j.consoles.modify number (· ++ line) }
  | .file file => { j with files := appendToFile j.files file (Logger.taken line) }

/-- Add a new console and a handler for it. -/
def addConsole (j : Journal) (l : Logger) : Journal :=
  { j with
    consoles := j.consoles ++ [[]]
    handlers := j.handlers ++ [⟨.console j.consoles.length, l.threshold, l.consoleFormatter⟩] }

/-- Add a handler for a file. The file keeps what it holds. -/
def addFile (j : Journal) (file : Text) : Journal :=
  { j with
    files := appendToFile j.files file []
    handlers := j.handlers ++ [⟨.file file, .debug, Logger.fileFormatter⟩] }

/-- Open a logger in place of the one before. -/
def openLogger (d : Disk) (j : Journal) (l : Logger) : Journal :=
  let j := { j with threshold := l.threshold, handlers := [] }.addConsole l
  let j := { j with directories := j.directories ++ (l.directoryOn d).toList }
  match l.fileOn d with
  | some file => j.addFile file
  | none => j

/-- Give a sheet to a handler. -/
def handle (j : Journal) (h : Handler) : StateM Sheet Journal := do
  if h.level ≤ (← get).level then
    let line ← h.formatter.format
    return j.write (line ++ "\n") h.target
  else return j

/-- Log a record that is made now. There is no record at a level that has no name. -/
def log (j : Journal) (now : Int) (r : Record) : Journal :=
  if j.threshold ≤ r.level ∧ r.level.hasName then
    ((j.handlers.foldlM handle j).run (r.sheet now)).1
  else j

inductive Step
  | start (l : Logger)
  | log (level : Level) (message : Text)
deriving Repr

def step (d : Disk) (now : Int) (j : Journal) : Step → Journal
  | .start l => openLogger d j l
  | .log level message => j.log now ⟨level, rootSource, message⟩

/-- The journal after each step. -/
def steps (d : Disk) (now : Int) : Journal → List Step → List Journal
  | _, [] => []
  | j, s :: rest => step d now j s :: steps d now (step d now j s) rest

end Journal
end BuildDispatch.Log
