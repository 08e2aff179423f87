import BuildDispatch.Calendar
import BuildDispatch.Path
import BuildDispatch.Text.Utf8

/-!
# The world

What lies outside of the program, as far as it can be asked: which paths exist, which of them are
directories, how a command ends, what the clock shows, and what the disk makes of log files. A world
answers the same question always in the same way; where the answers change over time, there are
several worlds. Whether a path exists or is a directory can always be told: a question that fails
is left out.
-/

namespace BuildDispatch

/-- How the attempt to run a command ends. -/
inductive Outcome
  /-- The command ran; a negative status is that of a signal. -/
  | exited (status : Int) (stdout : Octets)
  /-- There is no such program. -/
  | missing
  /-- The program may not be run. -/
  | denied
  /-- The user interrupted the attempt. -/
  | interrupted
  /-- The attempt failed for another reason, which the system gives. -/
  | failed (cause : Text)
deriving Repr, DecidableEq

/-- What a disk makes of the names of log files. -/
structure Disk where
  /-- The file that a name leads to. -/
  fileOf : Text → Text := id
  /-- Why a directory cannot be made, if it cannot. -/
  directoryFault : Text → Option Text := fun _ => none
  /-- Why the file of a name cannot be opened, if it cannot. -/
  fileFault : Text → Option Text := fun _ => none

namespace Disk

/-- A disk on which a name leads to the file at its absolute path. -/
def byPath (current : Path) : Disk where
  fileOf name := (current.absolute (.ofText name)).text

/-- The directory that is made for a file. -/
def directoryOf (name : Text) : Text := (Path.ofText name).parent.text

/-- Why a log file cannot be had: there is no directory for it, or it cannot be opened. -/
def fault? (d : Disk) (name : Text) : Option Text :=
  (d.directoryFault (directoryOf name)).or (d.fileFault name)

end Disk

structure World where
  present : Text → Bool
  /-- Whether a path is a directory; a file at the path is none. -/
  isDirectory : Text → Bool
  outcome : List Text → Outcome
  clock : ClockReading
  disk : Disk := {}

/-- A world in which nothing is found. -/
def World.nowhere : World where
  present _ := false
  isDirectory _ := false
  outcome _ := .missing
  clock := ⟨⟨1970, 1, 1⟩, { hour := 0, minute := 0, second := 0 }, "UTC"⟩

end BuildDispatch
