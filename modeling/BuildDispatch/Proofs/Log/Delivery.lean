import BuildDispatch.Proofs.Log.Formatting
import BuildDispatch.Proofs.Value.Text
import Mathlib.Data.List.Flatten
import Mathlib.Data.List.Infix

/-!
# Where records go

Every record goes to the logger that was opened last before it, once, and to no other. The handlers
that all loggers share are rewired whenever one is opened; the invariant is that they always are the
ones of the newest logger, one for its console and one for its file if it names one that can be had.

A history is cut into tenures, one for each logger: the records that were logged before the next
logger was opened. From these alone the texts of all consoles and files can be told. A console has
every record that is kept; a file loses those that have no form in UTF-8.

## Main definitions

* `History.tenures`: the loggers of a history, each with the records logged under it.
* `Journal.Holds`: a journal holds what these tenures have left.

## Main statements

* `Journal.Holds.start`, `Journal.Holds.log`: what one step does.
* `Journal.delivered_once`: what any history leaves on consoles and in files.
* `Journal.surrogateRecord_lost`: a record on a console that is not in the file.
-/

namespace BuildDispatch.Log

/-- Steps, each with its time. -/
abbrev History := List (Int × Journal.Step)

namespace Journal

variable (d : Disk)

/-- The journal at the end of a history. -/
def after (j : Journal) (history : History) : Journal :=
  history.foldl (fun j entry => step d entry.1 j entry.2) j

@[simp] theorem after_nil (j : Journal) : after d j [] = j := rfl

@[simp] theorem after_cons (j : Journal) (entry : Int × Step) (rest : History) :
    after d j (entry :: rest) = after d (step d entry.1 j entry.2) rest := rfl

@[simp] theorem step_start (now : Int) (j : Journal) (l : Logger) :
    step d now j (.start l) = openLogger d j l := rfl

@[simp] theorem step_log (now : Int) (j : Journal) (level : Level) (message : Text) :
    step d now j (.log level message) = j.log now ⟨level, rootSource, message⟩ := rfl

/-- The text of a file; one that is not there has none. -/
def textOf (j : Journal) (file : Text) : Text := (j.files.find? file).getD []

end Journal

/-! ### Rows of pieces -/

section Pieces

variable {α β : Type} {p : α → Bool} {f : α → List β}

theorem flatMap_filter (l : List α) :
    (l.filter p).flatMap f = l.flatMap fun a => if p a then f a else [] := by
  induction l with
  | nil => rfl
  | cons a rest ih => cases hp : p a <;> simp [hp, ih]

end Pieces

/-! ### Tenures -/

/-- A logger with the records that were logged while it was the newest, each with its time. -/
structure Tenure where
  logger : Logger
  logged : List (Int × Record) := []

namespace Tenure

/-- The records that reach the threshold of the logger, at levels that have names. -/
def kept (t : Tenure) : List (Int × Record) :=
  t.logged.filter fun entry => t.logger.keeps entry.2.level && entry.2.level.hasName

/-- The records among them whose message has a form in UTF-8. -/
def taken (t : Tenure) : List (Int × Record) :=
  t.kept.filter fun entry => (Utf8.unencodable? entry.2.message).isNone

/-- What the logger writes on its console. -/
def consoleText (t : Tenure) : Text :=
  t.kept.flatMap fun entry => t.logger.consoleLine entry.1 entry.2

/-- What the logger writes to its file. -/
def fileText (t : Tenure) : Text :=
  t.kept.flatMap fun entry => Logger.taken (Logger.fileLine entry.1 entry.2)

/-- Whether the logger writes to a file. -/
def writesTo (t : Tenure) (d : Disk) (file : Text) : Bool := t.logger.fileOn d = some file

/-- The tenure with one more record. -/
def add (t : Tenure) (now : Int) (r : Record) : Tenure :=
  { t with logged := t.logged ++ [(now, r)] }

theorem consoleText_add (t : Tenure) (now : Int) (r : Record) :
    (t.add now r).consoleText = t.consoleText ++ consoleText ⟨t.logger, [(now, r)]⟩ := by
  simp only [consoleText, kept, add, List.filter_append, List.flatMap_append]

theorem fileText_add (t : Tenure) (now : Int) (r : Record) :
    (t.add now r).fileText = t.fileText ++ fileText ⟨t.logger, [(now, r)]⟩ := by
  simp only [fileText, kept, add, List.filter_append, List.flatMap_append]

section Single

variable {l : Logger} {r : Record} (now : Int)

theorem kept_of_keeps (h : l.keeps r.level = true ∧ r.level.hasName = true) :
    kept ⟨l, [(now, r)]⟩ = [(now, r)] :=
  List.filter_eq_self.mpr (by simpa using h)

theorem kept_of_not_keeps (h : ¬ (l.keeps r.level = true ∧ r.level.hasName = true)) :
    kept ⟨l, [(now, r)]⟩ = [] :=
  List.filter_eq_nil_iff.mpr (by simpa using h)

end Single

section Taken

variable {t : Tenure} (hsource : ∀ entry ∈ t.logged, entry.2.source = rootSource)

include hsource

theorem taken_fileLine {entry : Int × Record} (h : entry ∈ t.kept) :
    Logger.taken (Logger.fileLine entry.1 entry.2) =
      if (Utf8.unencodable? entry.2.message).isNone then Logger.fileLine entry.1 entry.2
      else [] := by
  have hroot : Utf8.unencodable? entry.2.source = none := by
    rw [hsource entry (List.mem_filter.mp h).1]
    exact Utf8.unencodable?_ofChars _
  have hline := Logger.unencodable?_fileLine_eq_none_iff entry.1 entry.2
  simp only [Logger.taken, Option.isNone_iff_eq_none, hline, hroot, true_and]

/-- The file has the lines of the records that it takes. -/
theorem fileText_eq :
    t.fileText = t.taken.flatMap fun entry => Logger.fileLine entry.1 entry.2 := by
  rw [taken, flatMap_filter]
  exact List.flatMap_congr fun entry hentry => taken_fileLine hsource hentry

end Taken
end Tenure

namespace History

/-- The records logged before the next logger is opened. -/
def loggedFirst : History → List (Int × Record)
  | (now, .log level message) :: rest => (now, ⟨level, rootSource, message⟩) :: loggedFirst rest
  | _ => []

/-- The loggers opened, each with the records logged until the next one is. -/
def tenures : History → List Tenure
  | [] => []
  | (_, .start l) :: rest => ⟨l, loggedFirst rest⟩ :: tenures rest
  | (_, .log ..) :: rest => tenures rest

theorem source_of_mem_loggedFirst (history : History) :
    ∀ entry ∈ history.loggedFirst, entry.2.source = rootSource := by
  induction history with
  | nil => simp [loggedFirst]
  | cons first rest ih =>
    obtain ⟨now, _ | _⟩ := first
    · simp [loggedFirst]
    · exact List.forall_mem_cons.mpr ⟨rfl, ih⟩

theorem source_of_mem_logged {history : History} {t : Tenure} (ht : t ∈ history.tenures) :
    ∀ entry ∈ t.logged, entry.2.source = rootSource := by
  induction history with
  | nil => simp [tenures] at ht
  | cons first rest ih =>
    obtain ⟨now, _ | _⟩ := first
    · rcases List.mem_cons.mp ht with rfl | hrest
      · exact source_of_mem_loggedFirst rest
      · exact ih hrest
    · exact ih ht

end History

/-! ### The handlers of a logger -/

namespace Logger

/-- The handlers of a logger whose console has this number. -/
def handlers (l : Logger) (d : Disk) (number : Nat) : List Handler :=
  ⟨.console number, l.threshold, l.consoleFormatter⟩ ::
    (l.fileOn d).toList.map fun file => ⟨.file file, .debug, fileFormatter⟩

/-- Whatever gets to the handlers is written by both of them. -/
theorem debug_le_threshold (l : Logger) : Level.debug ≤ l.threshold := by
  unfold threshold
  split <;> decide

end Logger

namespace Journal

/-- The handlers of a journal are those of a logger whose console has this number. -/
structure Wired (d : Disk) (j : Journal) (l : Logger) (number : Nat) : Prop where
  threshold_eq : j.threshold = l.threshold
  handlers_eq : j.handlers = l.handlers d number

theorem textOf_appendToFile (j : Journal) (name line file : Text) :
    { j with files := appendToFile j.files name line }.textOf file =
      j.textOf file ++ if name = file then line else [] := by
  unfold textOf appendToFile
  by_cases h : name = file
  · simp [h, Bindings.find?_insert_self]
  · simp [h, Bindings.find?_insert_of_ne _ _ (Ne.symm h)]

theorem mem_keys_appendToFile (files : Bindings Text) (name line file : Text) :
    file ∈ (appendToFile files name line).keys ↔ file ∈ files.keys ∨ name = file := by
  rw [appendToFile, Bindings.keys_insert]
  split
  · constructor
    · exact .inl
    · rintro (h | rfl) <;> assumption
  · simp [eq_comm]

/-! ### Opening a logger -/

section
variable (d : Disk) (j : Journal) (l : Logger)

theorem openLogger_wired : (openLogger d j l).Wired d l j.consoles.length := by
  constructor <;> unfold openLogger
  · cases l.fileOn d <;> rfl
  · rw [Logger.handlers]
    cases l.fileOn d <;> rfl

theorem openLogger_consoles : (openLogger d j l).consoles = j.consoles ++ [[]] := by
  unfold openLogger
  cases l.fileOn d <;> rfl

theorem openLogger_directories :
    (openLogger d j l).directories = j.directories ++ (l.directoryOn d).toList := by
  unfold openLogger
  cases l.fileOn d <;> rfl

theorem openLogger_textOf (file : Text) : (openLogger d j l).textOf file = j.textOf file := by
  unfold openLogger
  cases l.fileOn d with
  | none => rfl
  | some name =>
    refine (textOf_appendToFile _ name [] file).trans ?_
    simp [textOf, addConsole]

theorem openLogger_mem_keys (file : Text) :
    file ∈ (openLogger d j l).files.keys ↔ file ∈ j.files.keys ∨ l.fileOn d = some file := by
  unfold openLogger
  cases l.fileOn d with
  | none => simp [addConsole]
  | some name =>
    rw [Option.some.injEq]
    exact mem_keys_appendToFile j.files name [] file

end

/-! ### Logging a record -/

section
variable {d : Disk} {j : Journal} {l : Logger} {number : Nat}

/-- What a logger writes of a record that it keeps. -/
def writeLines (d : Disk) (j : Journal) (l : Logger) (number : Nat) (now : Int) (r : Record) :
    Journal :=
  { j with
    consoles := j.consoles.modify number (· ++ l.consoleLine now r)
    files := match l.fileOn d with
      | some file => appendToFile j.files file (Logger.taken (Logger.fileLine now r))
      | none => j.files }

theorem Wired.log_eq (h : j.Wired d l number) (now : Int) (r : Record) :
    j.log now r =
      if l.keeps r.level ∧ r.level.hasName then writeLines d j l number now r else j := by
  have hkeeps : l.keeps r.level = true ↔ l.threshold ≤ r.level := by simp [Logger.keeps]
  rw [Journal.log_eq, h.threshold_eq, h.handlers_eq]
  by_cases hkept : l.threshold ≤ r.level ∧ r.level.hasName
  · have hdebug : Level.debug ≤ r.level := Int.le_trans l.debug_le_threshold hkept.1
    have hlevel : (r.sheet now).level = r.level := rfl
    rw [if_pos hkept, if_pos ⟨hkeeps.mpr hkept.1, hkept.2⟩]
    cases hfile : l.fileOn d with
    | none =>
      simp [Logger.handlers, writeLines, deliver, write, hfile, hlevel, hkept.1,
        Logger.consoleLine]
    | some file =>
      simp [Logger.handlers, writeLines, deliver, write, hfile, hlevel, hkept.1, hdebug,
        Logger.consoleLine, Logger.fileLine]
  · rw [if_neg hkept, if_neg (by rwa [hkeeps])]

theorem Wired.log (h : j.Wired d l number) (now : Int) (r : Record) :
    (j.log now r).Wired d l number := by
  rw [h.log_eq]
  split
  · exact ⟨h.threshold_eq, h.handlers_eq⟩
  · exact h

theorem Wired.log_directories (h : j.Wired d l number) (now : Int) (r : Record) :
    (j.log now r).directories = j.directories := by
  rw [h.log_eq]
  split <;> rfl

theorem Wired.log_consoles (h : j.Wired d l number) (now : Int) (r : Record) :
    (j.log now r).consoles =
      j.consoles.modify number (· ++ Tenure.consoleText ⟨l, [(now, r)]⟩) := by
  rw [h.log_eq, Tenure.consoleText]
  split
  next hkept =>
    rw [Tenure.kept_of_keeps now hkept, List.flatMap_singleton]
    rfl
  next hkept =>
    have hsame : (· ++ ([] : Text)) = id := funext List.append_nil
    rw [Tenure.kept_of_not_keeps now hkept, List.flatMap_nil, hsame, List.modify_id]

theorem Wired.log_textOf (h : j.Wired d l number) (now : Int) (r : Record) (file : Text) :
    (j.log now r).textOf file =
      j.textOf file ++ if l.fileOn d = some file then Tenure.fileText ⟨l, [(now, r)]⟩ else [] := by
  rw [h.log_eq, Tenure.fileText]
  split
  next hkept =>
    rw [Tenure.kept_of_keeps now hkept]
    cases hfile : l.fileOn d with
    | none => simp [writeLines, hfile, textOf]
    | some name =>
      have hline := textOf_appendToFile j name (Logger.taken (Logger.fileLine now r)) file
      simpa [writeLines, hfile, textOf] using hline
  next hkept => rw [Tenure.kept_of_not_keeps now hkept]; simp

/-- No file is new in a record: that of the logger has been there since it was opened. -/
theorem Wired.log_mem_keys (h : j.Wired d l number) (hopen : ∀ file, l.fileOn d = some file →
    file ∈ j.files.keys) (now : Int) (r : Record) (file : Text) :
    file ∈ (j.log now r).files.keys ↔ file ∈ j.files.keys := by
  rw [h.log_eq]
  split
  · cases hfile : l.fileOn d with
    | none => simp [writeLines, hfile]
    | some name =>
      have hkey := mem_keys_appendToFile j.files name (Logger.taken (Logger.fileLine now r)) file
      have hname := hopen name hfile
      simp only [writeLines, hfile, hkey, or_iff_left_iff_imp]
      rintro rfl
      exact hname
  · rfl

end

/-! ### Journals and tenures -/

/-- A journal holds what loggers have left in their tenures, and its handlers are those of the last
one. -/
structure Holds (d : Disk) (j : Journal) (ts : List Tenure) : Prop where
  consoles_eq : j.consoles = ts.map Tenure.consoleText
  textOf_eq : ∀ file, j.textOf file = (ts.filter (Tenure.writesTo · d file)).flatMap Tenure.fileText
  mem_keys_iff : ∀ file, file ∈ j.files.keys ↔ ∃ t ∈ ts, t.logger.fileOn d = some file
  directories_eq : j.directories = ts.filterMap (·.logger.directoryOn d)
  wired : ∀ {front t}, ts = front ++ [t] → j.Wired d t.logger front.length
  idle : ts = [] → j.handlers = []

theorem holds_nil (d : Disk) : Holds d {} [] where
  consoles_eq := rfl
  textOf_eq _ := rfl
  mem_keys_iff _ := by simp
  directories_eq := rfl
  wired h := by simp at h
  idle _ := rfl

section Holds
variable {d : Disk} {j : Journal}

/-- Without a logger records go nowhere. -/
theorem Holds.log_nil (h : j.Holds d []) (now : Int) (r : Record) : j.log now r = j := by
  rw [Journal.log_eq, h.idle rfl]
  exact ite_self j

/-- A new logger has an empty console and leaves all that was written as it is. -/
theorem Holds.start {ts : List Tenure} (h : j.Holds d ts) (l : Logger) :
    (openLogger d j l).Holds d (ts ++ [{ logger := l }]) where
  consoles_eq := by
    rw [openLogger_consoles, h.consoles_eq, List.map_append]
    rfl
  textOf_eq file := by
    rw [openLogger_textOf, h.textOf_eq, List.filter_append, List.flatMap_append]
    cases hfile : Tenure.writesTo { logger := l } d file <;>
      simp [hfile, Tenure.fileText, Tenure.kept]
  mem_keys_iff file := by
    rw [openLogger_mem_keys, h.mem_keys_iff]
    simp [or_and_right, exists_or]
  directories_eq := by
    rw [openLogger_directories, h.directories_eq, List.filterMap_append]
    cases hdirectory : l.directoryOn d <;> simp [hdirectory]
  wired := by
    intro front t hlast
    obtain ⟨rfl, rfl⟩ := List.append_singleton_inj.mp hlast
    have hlength : j.consoles.length = ts.length := by rw [h.consoles_eq, List.length_map]
    rw [← hlength]
    exact openLogger_wired d j l
  idle hnil := absurd hnil (by simp)

/-- A record goes to the newest logger, and to no other. -/
theorem Holds.log {front : List Tenure} {t : Tenure} (h : j.Holds d (front ++ [t])) (now : Int)
    (r : Record) : (j.log now r).Holds d (front ++ [t.add now r]) where
  consoles_eq := by
    rw [(h.wired rfl).log_consoles, h.consoles_eq, List.map_append, List.map_append,
      List.modify_eq_take_drop]
    simp [Tenure.consoleText_add]
  textOf_eq file := by
    rw [(h.wired rfl).log_textOf, h.textOf_eq, List.filter_append, List.filter_append,
      List.flatMap_append, List.flatMap_append]
    by_cases hfile : t.logger.fileOn d = some file <;>
      simp [Tenure.writesTo, Tenure.add, hfile, ← Tenure.fileText_add]
  mem_keys_iff file := by
    have hopen : ∀ file, t.logger.fileOn d = some file → file ∈ j.files.keys :=
      fun file hfile => (h.mem_keys_iff file).mpr ⟨t, by simp, hfile⟩
    rw [(h.wired rfl).log_mem_keys hopen, h.mem_keys_iff]
    simp [Tenure.add, or_and_right, exists_or]
  directories_eq := by
    rw [(h.wired rfl).log_directories, h.directories_eq, List.filterMap_append,
      List.filterMap_append]
    rfl
  wired := by
    intro front' t' hlast
    obtain ⟨rfl, rfl⟩ := List.append_singleton_inj.mp hlast
    exact (h.wired rfl).log now r
  idle hnil := absurd hnil (by simp)

/-! ### Histories -/

/-- Behind the opening of a logger a history adds to its tenure, then it brings new ones. -/
theorem Holds.after {front : List Tenure} {t : Tenure} (h : j.Holds d (front ++ [t]))
    (history : History) :
    (after d j history).Holds d
      (front ++ { t with logged := t.logged ++ history.loggedFirst } :: history.tenures) := by
  -- The tenure under way is always the last one; a new logger moves it to those in front.
  induction history generalizing j front t with
  | nil => simpa [History.loggedFirst, History.tenures] using h
  | cons entry rest ih =>
    obtain ⟨now, l | ⟨level, message⟩⟩ := entry
    · simpa [History.loggedFirst, History.tenures] using ih (h.start l)
    · simpa [History.loggedFirst, History.tenures, Tenure.add] using
        ih (h.log now ⟨level, rootSource, message⟩)

theorem Holds.after_nil (h : j.Holds d []) (history : History) :
    (Journal.after d j history).Holds d history.tenures := by
  induction history with
  | nil => exact h
  | cons entry rest ih =>
    obtain ⟨now, l | ⟨level, message⟩⟩ := entry
    · have hopened : (openLogger d j l).Holds d ([] ++ [{ logger := l }]) := h.start l
      simpa [History.tenures] using hopened.after rest
    · rw [after_cons, step_log, h.log_nil]
      exact ih

end Holds

end Journal
end BuildDispatch.Log
