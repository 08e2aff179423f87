import BuildDispatch.Options.Usage
import BuildDispatch.Session

/-!
# The command line

From arguments, environment and configuration files to a status. The configuration is loaded
first, since the names of the operations belong to the usage; then the arguments are read, the
invocation is gathered, and the operation is dispatched or the catalogue listed.

## Main definitions

* `Ending`: a status, or something that nobody expected.
* `CommandLine.run`: the whole of an invocation, as events and an ending.
-/

namespace BuildDispatch

/-- What may go wrong without being reported. -/
inductive Escape
  /-- The configuration could not be read. -/
  | unloaded (failure : LoadFailure)
  /-- The usage does not fall into parts. -/
  | shapelessUsage
  /-- The help text or the catalogue could not be written. -/
  | unwritten (failure : Failure)
deriving Repr, DecidableEq

def Escape.message : Escape → Text
  | unloaded failure => failure.message
  | shapelessUsage => []
  | unwritten failure => failure.message

/-- How an invocation ends. -/
inductive Ending
  | exit (status : Int)
  | escaped (cause : Escape)
deriving Repr, DecidableEq

/-- What an invocation does and how it ends. -/
structure Report where
  events : Trace
  ending : Ending
  /-- The logger that was opened, if it came to that. -/
  logger : Option Log.Logger := none
deriving Repr

/-- What an invocation is given. -/
structure CommandLine where
  arguments : List Text
  environment : Environment
  files : ConfigFiles
  configDir : Text
  currentDir : Path
  /-- Whether the error stream is a terminal. -/
  tty : Bool := false
  world : World

namespace CommandLine

open Options

/-- Whether a failure of loading is reported: missing files are, and faulty content. -/
def isReported : LoadFailure → Bool
  | .missing .. | .rejected (.fault _) => true
  | .rejected (.unwritable _) | .unreadable _ => false

/-- End with a message on the error stream. -/
def refusal (message : Text) (status : Int) : Report :=
  { events := [.reported message], ending := .exit status }

def escape (cause : Escape) : Report := { events := [], ending := .escaped cause }

def usageRefusal (choices : List Text) (f : UsageFault) : Report :=
  match usage? choices with
  | some usage => refusal (usage ++ "\n" ++ program ++ ": error: " ++ f.message ++ "\n") 2
  | none => escape .shapelessUsage

/-- End with what was to be written, if that was possible. -/
def written (r : Run Unit) : Report :=
  { events := r.events
    ending := match r.result with
      | .ok _ => .exit 0
      | .error failure => .escaped (.unwritten failure) }

/-- Where the program writes to. -/
def sink : Sink := .textOverOctets

def helpReport (choices : List Text) : Report :=
  match help? choices with
  | some help => written (sink.write help)
  | none => escape .shapelessUsage

/-- The status of a failed operation, and what is told about it. -/
def failed (l : Log.Logger) (failure : Failure) : Trace × Int :=
  match failure with
  | .interrupted => ([.reported "\nInterrupted by user\n"], 130)
  | failure =>
    ((l.error ("Build system error: " ++ failure.message)).events ++
      (if l.verbose then [.reported "<traceback>\n"] else []), 1)

/-- Dispatch an operation. -/
def dispatch (c : Setup) (s : Session) (name : Text) : Trace × Int :=
  let p := s.dispatch c name
  match p.run.result with
  | .ok status => (p.run.events, exitStatus status)
  | .error failure =>
    let (events, status) := failed c.logger failure
    (p.run.events ++ events, status)

def loggerFor (cl : CommandLine) (i : Invocation) (r : Request) : Log.Logger :=
  { verbose := i.verbose, tty := cl.tty, file := r.logFile.filter fun file => file ≠ [] }

/-- The part of a request that the invocation is gathered from. -/
def flagsOf (r : Request) : Flags :=
  { rootDir := r.rootDir, dryRun := r.dryRun, verbose := r.verbose, bundled := r.bundled }

/-- What is told if the work cannot be begun. -/
def startRefusal (failure : Failure) : Report :=
  refusal ("Error initializing build system: " ++ failure.message ++ "\n") 1

/-- A step on the disk, which fails if there is a fault. -/
def diskStep (fault : Option Text) (ev : Event) : Run Unit :=
  match fault with
  | some cause => .fail (.system cause)
  | none => .emit ev

/-- Open the log file of this name, in a directory that is made for it. -/
def openFile (d : Disk) (name : Text) : Run Unit := do
  let directory := Disk.directoryOf name
  diskStep (d.directoryFault directory) (.madeDirectory directory)
  diskStep (d.fileFault name) (.openedLog name)

/-- Open the log file, if one is asked for. -/
def openLog (cl : CommandLine) (l : Log.Logger) : Run Unit :=
  match l.file with
  | some name => openFile cl.world.disk name
  | none => pure ()

/-- Do what was asked for, once the log file is open. -/
def performWith (cl : CommandLine) (config : Configuration) (i : Invocation) (r : Request)
    (logger : Log.Logger) : Report :=
  if r.list then written (sink.writeAll (Session.listing config.catalogue i))
  else
    let setup : Setup := { catalogue := config.catalogue, logger, sink }
    let session : Session := { world := cl.world, invocation := i }
    let (events, status) := dispatch setup session (r.operation.getD [])
    { events, ending := .exit status }

/-- Open the log file and do what was asked for. -/
def perform (cl : CommandLine) (config : Configuration) (i : Invocation) (r : Request) : Report :=
  let logger := cl.loggerFor i r
  let opening := cl.openLog logger
  let report :=
    match opening.result with
    | .error failure => startRefusal failure
    | .ok _ => { cl.performWith config i r logger with logger := some logger }
  { report with events := opening.events ++ report.events }

def runLoaded (cl : CommandLine) (config : Configuration) : Report :=
  let choices := config.catalogue.keys
  match read choices cl.arguments with
  | .error .help => helpReport choices
  | .error (.fault f) => usageRefusal choices f
  | .ok r =>
    match config.gather cl.environment (flagsOf r) cl.currentDir with
    | .error failure => startRefusal failure
    | .ok i => cl.perform config i r

/-- The whole of an invocation. -/
def run (cl : CommandLine) : Report :=
  match cl.files.load cl.configDir with
  | .error failure =>
    if isReported failure then
      refusal ("Error loading build configuration: " ++ failure.message ++ "\n") 1
    else escape (.unloaded failure)
  | .ok config => cl.runLoaded config

/-! ### What a run may ask of the world -/

/-- The paths whose presence a run may ask for. -/
def pathsOfInterest (cl : CommandLine) : List Text :=
  match cl.files.load cl.configDir with
  | .error _ => []
  | .ok config => config.library.lookupPaths

/-- The working directories of a run's commands. -/
def directoriesOfInterest (cl : CommandLine) : List Text :=
  match cl.files.load cl.configDir with
  | .error _ => []
  | .ok config =>
    match read config.catalogue.keys cl.arguments with
    | .error _ => []
    | .ok r => [(r.rootDir.getD cl.currentDir).text]

/-- The log file that a run opens, if it gets so far. -/
def logFileOfInterest (cl : CommandLine) : Option Text :=
  match cl.files.load cl.configDir with
  | .error _ => none
  | .ok config =>
    match read config.catalogue.keys cl.arguments with
    | .error _ => none
    | .ok r =>
      match config.gather cl.environment (flagsOf r) cl.currentDir with
      | .error _ => none
      | .ok i => (cl.loggerFor i r).file

/-- The most attempts that an operation makes: a check, an installation and its own command. -/
def mostAttempts : Nat := 3

end CommandLine
end BuildDispatch
