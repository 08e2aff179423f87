import BuildDispatch.Log.Logger
import BuildDispatch.Proofs.Text.Occurrence
import Mathlib.Data.List.Basic

/-!
# What formatters leave on a sheet

All handlers of a logger format one sheet, in turn. A formatter without colours writes the message
and the time on it; one with colours copies it first. What the record itself says, and with it the
level name and the text, stays as it was, and no line depends on what earlier formatters have left.
A record is thus delivered as if each handler had a sheet of its own.

## Main statements

* `Formatter.mapM_format`: formatters in turn make the lines that each makes alone.
* `Logger.unencodable?_fileLine_eq_none_iff`: the records whose lines a file takes.
* `Journal.log_eq`: what logging a record does to a journal, without any sheet.
-/

namespace BuildDispatch.Log

namespace Sheet

/-- What the record says, without what formatters have left. -/
def fresh (s : Sheet) : Sheet := { s with message := [], time := [] }

theorem level_eq_of_fresh {s t : Sheet} (h : s.fresh = t.fresh) : s.level = t.level :=
  (mk.inj h).1

/-- Whatever stands in a line is of the record, or has just been written. -/
theorem line_complete_fresh (s : Sheet) (layout : Layout) (times : TimeStyle) :
    (s.fresh.complete layout times).line layout = (s.complete layout times).line layout := by
  refine List.flatMap_congr fun piece hpiece => ?_
  rcases piece with _ | field
  · rfl
  · cases field with
    | time =>
      change (if _ then _ else _) = (if _ then _ else _)
      rw [if_pos hpiece, if_pos hpiece]
      rfl
    | level | source | message => rfl

end Sheet

namespace Formatter

theorem line_eq (f : Formatter) (s : Sheet) :
    f.line s = ((s.shown f.coloured).complete f.layout f.times).line f.layout := by
  unfold line format Sheet.shown
  split <;> rfl

theorem line_fresh (f : Formatter) (s : Sheet) : f.line s.fresh = f.line s := by
  have hshown : s.fresh.shown f.coloured = (s.shown f.coloured).fresh := by
    unfold Sheet.shown
    split <;> rfl
  rw [line_eq, line_eq, hshown, Sheet.line_complete_fresh]

theorem line_eq_of_fresh (f : Formatter) {s t : Sheet} (h : s.fresh = t.fresh) :
    f.line s = f.line t := by
  rw [← line_fresh f s, h, line_fresh]

/-- Formatting leaves alone what the record says. -/
theorem fresh_format (f : Formatter) (s : Sheet) : (f.format.run s).2.fresh = s.fresh := by
  unfold format
  split <;> rfl

/-- Formatters that have a sheet in turn make the lines that each of them makes alone, and the
record still says what it did. -/
theorem mapM_format (formatters : List Formatter) (s : Sheet) :
    ((formatters.mapM format).run s).1 = formatters.map (line · s) ∧
      ((formatters.mapM format).run s).2.fresh = s.fresh := by
  induction formatters generalizing s with
  | nil => exact ⟨rfl, rfl⟩
  | cons f rest ih =>
    obtain ⟨hlines, hfresh⟩ := ih (f.format.run s).2
    have hsame := fresh_format f s
    simp only [List.mapM_cons, StateT.run_bind, StateT.run_pure, List.map_cons]
    refine ⟨?_, hfresh.trans hsame⟩
    have hrest : rest.map (line · (f.format.run s).2) = rest.map (line · s) :=
      List.map_congr_left fun g _ => g.line_eq_of_fresh hsame
    exact congrArg (f.line s :: ·) (hlines.trans hrest)

end Formatter

namespace Logger

variable (now : Int) (r : Record)

theorem fileLine_eq : fileLine now r = dateText now ++ (" [" ++ (r.level.name ++ ("] " ++
    (r.source ++ (": " ++ (r.message ++ "\n")))))) := by
  simp [fileLine, fileFormatter, Formatter.line_eq, Sheet.shown, Sheet.line, Layout.full,
    Sheet.pieceText, Sheet.fieldText, Sheet.complete, TimeStyle.text, Record.sheet]

/-- Source and message decide whether a file takes the line of a record. -/
theorem unencodable?_fileLine_eq_none_iff :
    Utf8.unencodable? (fileLine now r) = none ↔
      Utf8.unencodable? r.source = none ∧ Utf8.unencodable? r.message = none := by
  have hfixed (s : String) : Utf8.unencodable? s = none := Utf8.unencodable?_ofChars s.toList
  simp only [fileLine_eq, Utf8.unencodable?_append_eq_none_iff, hfixed, true_and, and_true]

end Logger

namespace Journal

/-- What a handler makes of a sheet. -/
def deliver (s : Sheet) (j : Journal) (h : Handler) : Journal :=
  if h.level ≤ s.level then j.write (h.formatter.line s ++ "\n") h.target else j

theorem deliver_eq_of_fresh {s t : Sheet} (hs : s.fresh = t.fresh) : deliver s = deliver t := by
  funext j h
  rw [deliver, deliver, Sheet.level_eq_of_fresh hs, h.formatter.line_eq_of_fresh hs]

theorem handle_run (j : Journal) (h : Handler) (s : Sheet) :
    ((j.handle h).run s).1 = deliver s j h ∧ ((j.handle h).run s).2.fresh = s.fresh := by
  by_cases hlevel : h.level ≤ s.level
  · have hrun : (j.handle h).run s =
        (j.write (h.formatter.line s ++ "\n") h.target, (h.formatter.format.run s).2) := by
      simp only [handle, StateT.run_bind, StateT.run_get, pure_bind, hlevel, if_true]
      rfl
    rw [hrun, deliver, if_pos hlevel]
    exact ⟨rfl, h.formatter.fresh_format s⟩
  · have hrun : (j.handle h).run s = (j, s) := by
      simp only [handle, StateT.run_bind, StateT.run_get, pure_bind, hlevel, if_false]
      rfl
    rw [hrun, deliver, if_neg hlevel]
    exact ⟨rfl, rfl⟩

theorem foldlM_handle (handlers : List Handler) (j : Journal) (s : Sheet) :
    ((handlers.foldlM handle j).run s).1 = handlers.foldl (deliver s) j := by
  induction handlers generalizing j s with
  | nil => rfl
  | cons h rest ih =>
    obtain ⟨hjournal, hfresh⟩ := handle_run j h s
    -- The rest get a sheet with more on it, but of the same record.
    rw [List.foldlM_cons, StateT.run_bind, List.foldl_cons, ← hjournal,
      ← deliver_eq_of_fresh hfresh]
    exact ih ..

/-- Logging a record gives it to every handler as if no other had had it. -/
theorem log_eq (j : Journal) (now : Int) (r : Record) :
    j.log now r =
      if j.threshold ≤ r.level ∧ r.level.hasName then j.handlers.foldl (deliver (r.sheet now)) j
      else j := by
  rw [log, foldlM_handle]

end Journal
end BuildDispatch.Log
