import BuildDispatch.Command
import BuildDispatch.Command.LineFilter
import BuildDispatch.Log.Logger
import BuildDispatch.Run

/-!
# Running commands

Two ways to run a command: to its end, with its output passed through or discarded, and as a stream,
where each line of its output goes through a filter. Both log what they do, run nothing when they
are only to announce it, and check the working directory before anything is run.
-/

namespace BuildDispatch

/-- What output is written to: octets, a text stream over octets, or a text stream that has none
beneath. The last takes each line of a command as text, with ill-formed parts replaced. -/
inductive Sink
  | octets
  | textOverOctets
  | text
deriving Repr, DecidableEq

namespace Sink

/-- The octets that a line adds to the sink. -/
def receive : Sink → Octets → Octets
  | text, line => Utf8.encode (Text.ofChars (Utf8.decodeLossy line))
  | _, line => line

/-- What keeps a text from being written, if anything does. With octets beneath, it needs a form in
UTF-8; where there are but octets, it is not taken at all. -/
def refusal : Sink → Text → Option Failure
  | octets, _ => some .octetsOnly
  | textOverOctets, t => (Utf8.unencodable? t).map .unencodable
  | text, _ => none

/-- Write a text. -/
def write (sink : Sink) (t : Text) : Run Unit :=
  match sink.refusal t with
  | some failure => .fail failure
  | none => .emit (.wrote (Utf8.encode t))

/-- Write texts one after the other. -/
def writeAll (sink : Sink) : List Text → Run Unit
  | [] => pure ()
  | t :: rest => do
    sink.write t
    sink.writeAll rest

end Sink

structure Runner where
  logger : Log.Logger
  /-- Announce commands without running them. -/
  dryRun : Bool := false
  sink : Sink := .textOverOctets
deriving Repr

namespace Log.Logger

/-- Log a message under a source, if the logger keeps its level. -/
def say (l : Logger) (level : Level) (source message : Text) : Run Unit :=
  if l.keeps level then .emit (.logged ⟨level, source, message⟩) else pure ()

def debug (l : Logger) (message : Text) : Run Unit := l.say .debug rootSource message

def info (l : Logger) (message : Text) : Run Unit := l.say .info rootSource message

def success (l : Logger) (message : Text) : Run Unit := l.say .success rootSource message

def error (l : Logger) (message : Text) : Run Unit := l.say .error rootSource message

end Log.Logger

/-- Fail if there is a working directory that is no directory. -/
def checkDirectory (w : World) : Option Text → Run Unit
  | none => pure ()
  | some d =>
    if w.isDirectory (Path.ofText d).text then pure () else .fail (.missingDirectory d)

/-- Try to run a command. The status and output, unless there is no such program. -/
def attempt (w : World) (a : Attempt) : Run (Option (Int × Octets)) := do
  .emit (.attempted a)
  match w.outcome a.command with
  | .exited status stdout => pure (some (status, stdout))
  | .missing => pure none
  | .denied => .fail (.denied (a.command.headD []))
  | .interrupted => .fail .interrupted
  | .failed cause => .fail (.system cause)

namespace Runner

/-- Announce a command that would be run. -/
def announce (r : Runner) (command : List Text) : Run Unit :=
  r.logger.info ("[DRY RUN] Would run: " ++ commandText command)

/-- Log that there is no such program as a command begins with. -/
def reportMissing (r : Runner) (command : List Text) : Run Unit :=
  match command with
  | [] => .fail .emptyCommand
  | program :: _ => r.logger.error ("Command not found: " ++ program)

/-- Run a command to its end. -/
def run (r : Runner) (w : World) (command : List Text) (environment : Environment)
    (directory : Option Text) (quiet : Bool) : Run Int := do
  r.logger.debug ("Running: " ++ commandText command)
  match directory with
  | some d => r.logger.debug ("  in: " ++ d)
  | none => pure ()
  if r.dryRun then
    r.announce command
    pure 0
  else
    checkDirectory w directory
    let routing : Routing := if quiet then .discarded else .inherited
    match ← attempt w ⟨command, directory, environment, routing⟩ with
    | some (status, _) => pure status
    | none =>
      if !quiet then r.reportMissing command
      pure commandNotFound

/-- Pass lines through a filter; the lines kept are written. -/
def filterLines (sink : Sink) : LineFilter → List Octets → Trace × LineFilter
  | f, [] => ([], f)
  | f, line :: rest =>
    let (kept, f) := f.feed (.octets line)
    let (events, f) := filterLines sink f rest
    (if kept then .wrote (sink.receive line) :: events else events, f)

/-- Run a command and pass each line of its output through a filter. The status is that of the
command, whatever the filter does. -/
def stream (r : Runner) (w : World) (command : List Text) (environment : Environment)
    (directory : Option Text) (filter : LineFilter) : Run (Int × LineFilter) := do
  r.logger.debug ("Running (filtered): " ++ commandText command)
  if r.dryRun then
    r.announce command
    pure (0, filter)
  else
    checkDirectory w directory
    match ← attempt w ⟨command, directory, environment, .piped⟩ with
    | some (status, stdout) =>
      let (events, filter) := filterLines r.sink filter (Text.cutAfter 0x0A stdout)
      .emitAll events
      pure (status, filter)
    | none =>
      r.reportMissing command
      pure (commandNotFound, filter)

end Runner
end BuildDispatch
