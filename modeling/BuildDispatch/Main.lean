import BuildDispatch.CommandLine
import BuildDispatch.Config.Shipped
import BuildDispatch.Launcher
import BuildDispatch.Log.Rendering
import Std.Time.DateTime.Timestamp

/-!
# The program

Gathers what the command line depends on, follows its run with the launcher, and does what the
events tell. Requests to the launcher go to descriptor 3, its answers come from descriptor 4;
without a launcher no command is found.
-/

namespace BuildDispatch.Program

def epochSeconds : IO Int := do
  return (← Std.Time.Timestamp.now).toSecondsSinceUnixEpoch.val

/-- The environment in the order in which the system gives it. -/
def readEnvironment : IO Environment := do
  let octets ← IO.FS.readBinFile "/proc/self/environ"
  let texts := Text.splitOn (.char '\x00') (Text.ofChars (Utf8.decodeLossy octets.toList))
  let isOther (c : CodePoint) : Bool := c ≠ '='
  return .ofList ((texts.filter fun t => !t.isEmpty).map fun t =>
    (t.takeWhile isOther, (t.dropWhile isOther).drop 1))

/-- A text as the system takes it. -/
def native (t : Text) : String := String.ofList t.chars

def exists? (path : Text) : IO Bool := do
  match ← (IO.FS.realPath (native path)).toBaseIO with
  | .ok _ => return true
  | .error _ => return false

def append (file text : Text) : IO Unit := do
  let h ← IO.FS.Handle.mk (native file) .append
  h.putStr (native text)

/-- Why something cannot be done, if it cannot. -/
def fault? (action : IO Unit) : IO (Option Text) := do
  match ← action.toBaseIO with
  | .ok _ => return none
  | .error e => return some (toString e : String)

/-- Have a log file made, in a directory for it, and see what the disk says. -/
def readDisk (cl : CommandLine) (name : Text) : IO Disk := do
  let directory ← fault? (IO.FS.createDirAll (native (Disk.directoryOf name)))
  let file ← if directory.isNone then fault? (append name []) else pure none
  return { Disk.byPath cl.currentDir with
    directoryFault := fun _ => directory
    fileFault := fun _ => file }

/-- The world as the command line may ask about it, apart from commands. A log file is opened before
anything else is done, so it does no harm to open it here. -/
def readWorld (cl : CommandLine) : IO World := do
  let now := Moment.ofEpochSeconds (← epochSeconds)
  let paths ← cl.pathsOfInterest.filterM exists?
  let directories ← cl.directoriesOfInterest.filterM fun d => exists? (d ++ "/.")
  let disk ← match cl.logFileOfInterest with
    | some name => readDisk cl name
    | none => pure {}
  return {
    present path := paths.contains path
    isDirectory path := directories.contains path
    outcome := fun _ => .missing
    clock := ⟨now.date, now.time, "UTC"⟩
    disk }

/-- The two ends of the line to the launcher. -/
structure Launcher where
  requests : IO.FS.Handle
  answers : IO.FS.Handle

def openLauncher : IO (Option Launcher) := do
  try
    let requests ← IO.FS.Handle.mk "/dev/fd/3" .write
    let answers ← IO.FS.Handle.mk "/dev/fd/4" .read
    return some { requests, answers }
  catch _ => return none

/-- Have an attempt made. -/
def Launcher.launch (l : Launcher) (a : Attempt) : IO Outcome := do
  l.requests.write ⟨a.request.toArray⟩
  l.requests.flush
  match Answer.ofLine? (← l.answers.getLine) with
  | some (.exited status size) =>
    let output ← l.answers.read size.toUSize
    return .exited status output.toList
  | some (.failed outcome) => return outcome
  | none => return .missing

def perform (l : Log.Logger) : Event → IO Unit
  | .logged r => do
    let now ← epochSeconds
    IO.eprint (native (l.consoleLine now r))
    for file in l.file do append file (Log.Logger.taken (Log.Logger.fileLine now r))
  | .wrote octets => do
    let out ← IO.getStdout
    out.write ⟨octets.toArray⟩
    out.flush
  | .reported text => IO.eprint (native text)
  | .madeDirectory path => IO.FS.createDirAll (native path)
  | .openedLog file => append file []
  | .queried _ | .attempted _ | .provisioned .. => pure ()

/-- Follow a run attempt by attempt, at most so many, and do what is new each time. The first
`done` events have been done. -/
def follow (cl : CommandLine) (launcher : Option Launcher) (known : Known) (done : Nat) :
    Nat → IO Report
  | 0 => return cl.run
  | n + 1 => do
    let report := { cl with world := known.extend cl.world }.run
    let (events, next) := known.advance report.events
    for e in events.drop done do perform (report.logger.getD {}) e
    match next with
    | none => return report
    | some a =>
      let outcome ← match launcher with
        | some l => l.launch a
        | none => pure .missing
      follow cl launcher (known ++ [(a.command, outcome)]) events.length n

def status : Ending → IO UInt32
  | .exit status => return (status % 256).toNat.toUInt32
  | .escaped cause => do
    IO.eprintln (native cause.message)
    return 1

end BuildDispatch.Program

open BuildDispatch Program in
def main (arguments : List String) : IO UInt32 := do
  let asked : CommandLine :=
    { arguments := arguments.map fun argument => Text.ofString argument
      environment := ← readEnvironment
      files := Config.shipped
      configDir := "config"
      currentDir := Path.ofText (← IO.currentDir).toString
      tty := ← (← IO.getStderr).isTty
      world := .nowhere }
  let cl := { asked with world := ← readWorld asked }
  let report ← follow cl (← openLauncher) [] 0 (CommandLine.mostAttempts + 1)
  status report.ending
