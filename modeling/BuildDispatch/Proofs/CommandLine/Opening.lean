import BuildDispatch.CommandLine
import BuildDispatch.Proofs.Run

/-!
# Opening the log file

Between its arguments and its work, a command line opens the log file that it is asked for: a
directory is made for the file, and then it is opened. Either may fail, and then the command line
ends before the work is begun.

## Main statements

* `CommandLine.openLog_opens`: what comes of opening a log file.
* `CommandLine.perform_of_fault`, `CommandLine.perform_of_open`: a command line without its log file
  tells what the fault is, and does nothing else; with it, the work is done.
-/

namespace BuildDispatch

open Run

/-- The events by which a log file is opened. -/
def Event.isOpening : Event → Bool
  | .madeDirectory _ => true
  | .openedLog _ => true
  | _ => false

/-- What comes of opening the log file that is asked for, if one is. -/
inductive Disk.Opens (d : Disk) : Option Text → Trace → Except Failure Unit → Prop
  | unasked : Opens d none [] (.ok ())
  | opened {name : Text} (h : d.fault? name = none) :
    Opens d (some name) [.madeDirectory (directoryOf name), .openedLog name] (.ok ())
  | noDirectory {name cause : Text} (h : d.directoryFault (directoryOf name) = some cause) :
    Opens d (some name) [] (.error (.system cause))
  | noFile {name cause : Text} (hdir : d.directoryFault (directoryOf name) = none)
    (h : d.fileFault name = some cause) :
    Opens d (some name) [.madeDirectory (directoryOf name)] (.error (.system cause))

namespace Disk.Opens

variable {d : Disk} {file : Option Text} {t : Trace} {result : Except Failure Unit}

theorem isOpening_of_mem (h : d.Opens file t result) : ∀ ev ∈ t, ev.isOpening = true := by
  cases h <;> simp [Event.isOpening]

theorem result_eq (h : d.Opens file t result) :
    result = match file.bind d.fault? with
      | some cause => .error (.system cause)
      | none => .ok () := by
  cases h with
  | unasked => rfl
  | opened h => rw [Option.bind_some, h]
  | noDirectory h => rw [Option.bind_some, fault?, h, Option.some_or]
  | noFile hdir h => rw [Option.bind_some, fault?, hdir, h, Option.none_or]

end Disk.Opens

namespace CommandLine

theorem openFile_opens (d : Disk) (name : Text) :
    d.Opens (some name) (openFile d name).events (openFile d name).result := by
  dsimp only [openFile, diskStep]
  cases hdir : d.directoryFault (Disk.directoryOf name) with
  | some cause => exact .noDirectory hdir
  | none =>
    rw [bind_of_ok (emit_result _)]
    cases hfile : d.fileFault name with
    | some cause => exact .noFile hdir hfile
    | none => exact .opened (by rw [Disk.fault?, hdir, hfile, Option.none_or])

variable (cl : CommandLine) (config : Configuration) (i : Invocation) (r : Options.Request)

/-- Either no log file is asked for, or it is opened, or one of the two steps fails. -/
theorem openLog_opens (l : Log.Logger) :
    cl.world.disk.Opens l.file (cl.openLog l).events (cl.openLog l).result := by
  unfold openLog
  cases l.file with
  | none => exact .unasked
  | some name => exact openFile_opens _ name

/-- What is done to open the log file. -/
def opened : Trace := (cl.openLog (cl.loggerFor i r)).events

/-- Why the log file cannot be had, if one is asked for and cannot. -/
def logFault : Option Text := (cl.loggerFor i r).file.bind cl.world.disk.fault?

theorem result_openLog :
    (cl.openLog (cl.loggerFor i r)).result = match cl.logFault i r with
      | some cause => .error (.system cause)
      | none => .ok () :=
  (cl.openLog_opens _).result_eq

/-- A view that sees nothing of opening files sees nothing here. -/
theorem filterMap_opened {α : Type} {pick : Event → Option α}
    (h : ∀ ev, ev.isOpening = true → pick ev = none) : (cl.opened i r).filterMap pick = [] :=
  List.filterMap_eq_nil_iff.mpr fun ev hev =>
    h ev ((cl.openLog_opens _).isOpening_of_mem ev hev)

theorem attempts_opened_append (t : Trace) : (cl.opened i r ++ t).attempts = t.attempts := by
  have hopened : (cl.opened i r).attempts = [] :=
    cl.filterMap_opened i r fun ev hev => by cases ev <;> first | rfl | cases hev
  rw [Trace.attempts_append, hopened, List.nil_append]

theorem queries_opened_append (t : Trace) : (cl.opened i r ++ t).queries = t.queries := by
  have hopened : (cl.opened i r).queries = [] :=
    cl.filterMap_opened i r fun ev hev => by cases ev <;> first | rfl | cases hev
  rw [Trace.queries_append, hopened, List.nil_append]

variable {cl i r}

/-- Without its log file, a command line does nothing but tell why. -/
theorem perform_of_fault {cause : Text} (h : cl.logFault i r = some cause) :
    cl.perform config i r =
      { startRefusal (.system cause) with
        events := cl.opened i r ++ (startRefusal (.system cause)).events } := by
  have hresult := cl.result_openLog i r
  rw [h] at hresult
  dsimp only [perform]
  rw [hresult]
  rfl

theorem perform_of_open (h : cl.logFault i r = none) :
    cl.perform config i r =
      { cl.performWith config i r (cl.loggerFor i r) with
        events := cl.opened i r ++ (cl.performWith config i r (cl.loggerFor i r)).events
        logger := some (cl.loggerFor i r) } := by
  have hresult := cl.result_openLog i r
  rw [h] at hresult
  dsimp only [perform]
  rw [hresult]
  rfl

end CommandLine
end BuildDispatch
