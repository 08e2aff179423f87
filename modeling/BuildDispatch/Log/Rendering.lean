import BuildDispatch.Log.Logger
import BuildDispatch.Run

/-!
# Traces as text

What the events of a run leave on a console, on the error stream and in a log file.
-/

namespace BuildDispatch

open Log

namespace Trace

/-- The text of the console. -/
def consoleText (l : Logger) (now : Int) (t : Trace) : Text :=
  t.records.flatMap (l.consoleLine now)

/-- The text of the error stream, which the console and messages share. -/
def errorText (l : Logger) (now : Int) (t : Trace) : Text :=
  t.flatMap fun
    | .logged r => l.consoleLine now r
    | .reported text => text
    | _ => []

/-- The text that is added to the log file. -/
def fileText (now : Int) (t : Trace) : Text :=
  t.records.flatMap fun r => Logger.taken (Logger.fileLine now r)

/-- The log files that were opened, with their texts. -/
def files (now : Int) (t : Trace) : List (Text × Text) :=
  t.filterMap fun
    | .openedLog file => some (file, t.fileText now)
    | _ => none

/-- The directories that were made for log files. -/
def directories (t : Trace) : List Text :=
  t.filterMap fun
    | .madeDirectory path => some path
    | _ => none

end Trace
end BuildDispatch
