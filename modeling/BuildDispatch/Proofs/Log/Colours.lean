import Mathlib.Algebra.GroupWithZero.Nat
import BuildDispatch.Proofs.Log.Delivery
import BuildDispatch.Proofs.Log.Templates
import BuildDispatch.Proofs.Text.Numerals

/-!
# Colours

Colours are for the eye alone. A terminal is sent the line that any other console is sent, with
sequences in it that switch colours; whatever takes these out again, here `withoutColours`, is left
with the plain line. The record is not touched by that, and files cannot tell whether a console was
a terminal.

## Main definitions

* `withoutColours`: a text without the sequences that switch colours.
* `Paints`: a text is another one with such sequences in it.
* `History.plain`: a history on consoles that are no terminals.

## Main statements

* `Formatter.paints_line`: the line in colours and the plain one.
* `colours_are_presentation`: lines, records and files in one.
-/

namespace BuildDispatch.Log

/-- The character that begins a sequence for a terminal. -/
def escape : CodePoint := .char '\x1b'

/-- A text without its sequences, of which each goes from the escape character to the next `m`; at
the beginning one may be under way. -/
def withoutSequences (underWay : Bool) : Text → Text
  | [] => []
  | c :: rest =>
    if underWay then withoutSequences (c != .char 'm') rest
    else if c = escape then withoutSequences true rest
    else c :: withoutSequences false rest

def withoutColours (t : Text) : Text := withoutSequences false t

/-- The first text is the second with sequences in it, wherever it stands. -/
def Paints (coloured plain : Text) : Prop :=
  ∀ rest, withoutColours (coloured ++ rest) = plain ++ withoutColours rest

namespace Paints

theorem eq {coloured plain : Text} (h : Paints coloured plain) :
    withoutColours coloured = plain := by
  simpa [withoutColours, withoutSequences] using h []

theorem append {a b c d : Text} (h : Paints a b) (h' : Paints c d) : Paints (a ++ c) (b ++ d) := by
  intro rest
  rw [List.append_assoc, h, h', List.append_assoc]

theorem flatMap {α : Type} {f g : α → Text} {l : List α} (h : ∀ a ∈ l, Paints (f a) (g a)) :
    Paints (l.flatMap f) (l.flatMap g) := by
  induction l with
  | nil => exact fun _ => rfl
  | cons a l ih =>
    rw [List.forall_mem_cons] at h
    simpa only [List.flatMap_cons] using h.1.append (ih h.2)

/-- A text without the escape character is left alone. -/
theorem self {t : Text} (h : escape ∉ t) : Paints t t := by
  intro rest
  induction t with
  | nil => rfl
  | cons c t ih =>
    obtain ⟨hc, ht⟩ := not_or.mp (List.mem_cons.not.mp h)
    rw [List.cons_append, withoutColours, withoutSequences, if_neg (by simp), if_neg (Ne.symm hc)]
    exact congrArg (c :: ·) (ih ht)

end Paints

theorem withoutSequences_append {t : Text} (h : CodePoint.char 'm' ∉ t) (rest : Text) :
    withoutSequences true (t ++ .char 'm' :: rest) = withoutColours rest := by
  induction t with
  | nil => rfl
  | cons c t ih =>
    obtain ⟨hc, ht⟩ := not_or.mp (List.mem_cons.not.mp h)
    have hgoes : (c != .char 'm') = true := by simpa using Ne.symm hc
    rw [List.cons_append, withoutSequences, if_pos rfl, hgoes, ih ht]

theorem paints_colourCode {code : String} (h : 'm' ∉ code.toList) :
    Paints (colourCode code : String) [] := by
  intro rest
  have hcode : Text.ofString (colourCode code) ++ rest =
      escape :: ((.char '[' :: Text.ofString code) ++ .char 'm' :: rest) := by
    simp [colourCode, Text.ofString, Text.ofChars, escape]
  have hnot : CodePoint.char 'm' ∉ (.char '[' :: Text.ofString code : Text) := by
    simpa [Text.ofString, Text.ofChars] using h
  rw [hcode, withoutColours, withoutSequences, if_neg (by simp), if_pos rfl,
    withoutSequences_append hnot, List.nil_append]

theorem exists_levelColour_eq (levelName : Text) :
    ∃ code : String, levelColour levelName = colourCode code ∧ 'm' ∉ code.toList := by
  unfold levelColour
  split_ifs <;> exact ⟨_, rfl, by decide⟩

theorem paints_tint (levelName : Text) {t : Text} (h : escape ∉ t) :
    Paints (tint levelName t) t := by
  obtain ⟨code, hcolour, hcode⟩ := exists_levelColour_eq levelName
  have hreset : Paints resetCode [] := paints_colourCode (by decide)
  rw [tint, hcolour]
  simpa using ((paints_colourCode hcode).append (.self h)).append hreset

example : withoutColours (tint "SUCCESS" "Installed m") = "Installed m" := by decide

/-! ### Texts without the escape character -/

theorem escape_notMem_ofString {s : String} : escape ∉ Text.ofString s ↔ '\x1b' ∉ s.toList := by
  simp [Text.ofString, Text.ofChars, escape]

theorem escape_notMem_int (n : Int) : '\x1b' ∉ n.repr.toList := by
  have hint : CodePoint.char '\x1b' ∉ (toString n : Text) := Text.notMem_int rfl (by decide) n
  rwa [Text.mem_ofString] at hint

theorem escape_notMem_zeroPadded (width n : Nat) : '\x1b' ∉ (Text.zeroPadded width n).toList :=
  Text.notMem_padLeftWith rfl (by decide) width n

theorem escape_notMem_name (l : Level) : escape ∉ (l.name : Text) := by
  rw [escape_notMem_ofString]
  unfold Level.name
  split_ifs <;> simp [escape_notMem_int]

theorem escape_notMem_time (times : TimeStyle) (seconds : Int) :
    escape ∉ times.text seconds := by
  have htime (t : TimeOfDay) : '\x1b' ∉ t.text.toList := by
    simp [TimeOfDay.text, escape_notMem_zeroPadded]
  cases times with
  | clock => exact escape_notMem_ofString.mpr (htime _)
  | dated =>
    refine escape_notMem_ofString.mpr ?_
    simp [dateText, Date.plainText, Date.dayText, htime, escape_notMem_zeroPadded,
      escape_notMem_int]

/-! ### Lines -/

/-- The line in colours is the plain one with sequences in it, if nothing that it is made of has
any. -/
theorem Formatter.paints_line {layout : Layout} (times : TimeStyle) {s : Sheet}
    (hfixed : ∀ t, .fixed t ∈ layout → escape ∉ t)
    (hsource : .field .source ∈ layout → escape ∉ s.source)
    (hname : escape ∉ s.levelName) (htext : escape ∉ s.text) :
    Paints (line ⟨layout, times, true⟩ s) (line ⟨layout, times, false⟩ s) := by
  rw [line_eq, line_eq]
  refine Paints.flatMap fun piece hpiece => ?_
  rcases piece with t | field
  · exact .self (hfixed t hpiece)
  · cases field with
    | time =>
      -- The time has just been written, whatever stood there before.
      have htime : escape ∉ if .field .time ∈ layout then times.text s.created else s.time := by
        rw [if_pos hpiece]
        exact escape_notMem_time times s.created
      exact .self htime
    | level => exact paints_tint s.levelName hname
    | source => exact .self (hsource hpiece)
    | message => exact paints_tint s.levelName htext

theorem Logger.escape_notMem_layout (l : Logger) {t : Text} (h : .fixed t ∈ l.layout) :
    escape ∉ t := by
  have hpieces : t = " " ∨ t = "[" ∨ t = "] " := by
    unfold layout at h
    split at h
    · simpa [Layout.timed, Layout.brief] using h
    · exact .inr (by simpa [Layout.brief] using h)
  rcases hpieces with rfl | rfl | rfl <;> decide

theorem Logger.source_notMem_layout (l : Logger) : .field .source ∉ l.layout := by
  unfold layout
  split <;> simp [Layout.timed, Layout.brief]

/-- What a terminal is sent is what any other console is, in colours. -/
theorem Logger.paints_line (l : Logger) (now : Int) {r : Record} (h : escape ∉ r.message) :
    Paints ({ l with tty := true }.consoleFormatter.line (r.sheet now))
      ({ l with tty := false }.consoleFormatter.line (r.sheet now)) :=
  Formatter.paints_line .clock (fun _ => l.escape_notMem_layout)
    (fun hsource => absurd hsource l.source_notMem_layout) (escape_notMem_name r.level) h

/-! ### Histories -/

def Logger.plain (l : Logger) : Logger := { l with tty := false }

def Journal.Step.plain : Journal.Step → Journal.Step
  | .start l => .start l.plain
  | .log level message => .log level message

def Tenure.plain (t : Tenure) : Tenure := { t with logger := t.logger.plain }

namespace History

/-- The history on consoles that are no terminals. -/
def plain (history : History) : History := history.map fun entry => (entry.1, entry.2.plain)

theorem loggedFirst_plain (history : History) :
    history.plain.loggedFirst = history.loggedFirst := by
  induction history with
  | nil => rfl
  | cons entry rest ih =>
    obtain ⟨now, _ | _⟩ := entry
    · rfl
    · exact congrArg (_ :: ·) ih

theorem tenures_plain (history : History) :
    history.plain.tenures = history.tenures.map Tenure.plain := by
  induction history with
  | nil => rfl
  | cons entry rest ih =>
    obtain ⟨now, l | _⟩ := entry
    · change ⟨l.plain, loggedFirst (plain rest)⟩ :: tenures (plain rest) = _
      rw [loggedFirst_plain, ih]
      rfl
    · exact ih

end History

namespace Journal

variable (d : Disk) (history : History) (file : Text)

/-- Files cannot tell whether consoles are terminals. -/
theorem textOf_plain :
    (after d {} history.plain).textOf file = (after d {} history).textOf file := by
  rw [((holds_nil d).after_nil history.plain).textOf_eq,
    ((holds_nil d).after_nil history).textOf_eq, History.tenures_plain, List.filter_map,
    List.flatMap_map]
  rfl

theorem mem_keys_plain :
    file ∈ (after d {} history.plain).files.keys ↔ file ∈ (after d {} history).files.keys := by
  rw [((holds_nil d).after_nil history.plain).mem_keys_iff,
    ((holds_nil d).after_nil history).mem_keys_iff, History.tenures_plain]
  simp [Tenure.plain, Logger.plain, Logger.fileOn]

end Journal

/-- Nothing but source and message can bring an escape character into the line of a file. -/
theorem count_escape_fileLine (now : Int) (r : Record) :
    (Logger.fileLine now r).count escape = r.source.count escape + r.message.count escape := by
  have htime : (dateText now : Text).count escape = 0 :=
    List.count_eq_zero.mpr (escape_notMem_time .dated now)
  have hname : (r.level.name : Text).count escape = 0 :=
    List.count_eq_zero.mpr (escape_notMem_name r.level)
  have hfixed (s : String) (h : '\x1b' ∉ s.toList) : (s : Text).count escape = 0 :=
    List.count_eq_zero.mpr (escape_notMem_ofString.mpr h)
  simp only [Logger.fileLine_eq, List.count_append, htime, hname, hfixed " [" (by decide),
    hfixed "] " (by decide), hfixed ": " (by decide), hfixed "\n" (by decide)]
  omega

/-- The escape characters in a file are those of the messages written to it. -/
theorem Journal.count_escape_textOf (d : Disk) (history : History) (file : Text) :
    ((after d {} history).textOf file).count escape =
      (((history.tenures.filter (Tenure.writesTo · d file)).flatMap Tenure.taken).map
        fun entry => entry.2.message.count escape).sum := by
  have htext := ((holds_nil d).after_nil history).textOf_eq file
  have hlines : (history.tenures.filter (Tenure.writesTo · d file)).flatMap Tenure.fileText =
      (history.tenures.filter (Tenure.writesTo · d file)).flatMap fun t =>
        t.taken.flatMap fun entry => Logger.fileLine entry.1 entry.2 := by
    refine List.flatMap_congr fun t ht => Tenure.fileText_eq ?_
    exact History.source_of_mem_logged (List.mem_filter.mp ht).1
  rw [htext, hlines, ← List.flatMap_assoc, List.count_flatMap]
  refine congrArg List.sum (List.map_congr_left fun entry hentry => ?_)
  obtain ⟨t, ht, htaken⟩ := List.mem_flatMap.mp hentry
  have hlogged : entry ∈ t.logged := (List.mem_filter.mp (List.mem_filter.mp htaken).1).1
  have hsource : entry.2.source = rootSource :=
    History.source_of_mem_logged (List.mem_filter.mp ht).1 entry hlogged
  have hnone : rootSource.count escape = 0 := by decide
  rw [Function.comp_apply, count_escape_fileLine, hsource, hnone, Nat.zero_add]

/-- Colours are presentation. A console that is a terminal is sent the line that its template gives
in colours, and without the sequences for these it is the line of any other console. Whatever
formatters have had a record before, each makes the line that it makes alone, and the record says
what it did. Files are the same for histories that differ in what consoles are terminals, and no
escape character is in them that is not in a message. -/
theorem colours_are_presentation :
    (∀ (l : Logger) (now : Int) (r : Record), escape ∉ r.message →
      ∃ coloured plain, r.fill l.template true now = .ok coloured ∧
        r.fill l.template false now = .ok plain ∧ withoutColours coloured = plain ∧
        { l with tty := true }.consoleLine now r = coloured ++ "\n" ∧
        { l with tty := false }.consoleLine now r = plain ++ "\n") ∧
      (∀ (formatters : List Formatter) (now : Int) (r : Record),
        ((formatters.mapM Formatter.format).run (r.sheet now)).1 =
            formatters.map (Formatter.line · (r.sheet now)) ∧
          ((formatters.mapM Formatter.format).run (r.sheet now)).2.fresh = r.sheet now) ∧
      (∀ (d : Disk) (h h' : History), h.plain = h'.plain → ∀ file,
        (Journal.after d {} h).textOf file = (Journal.after d {} h').textOf file ∧
          (file ∈ (Journal.after d {} h).files.keys ↔
            file ∈ (Journal.after d {} h').files.keys)) ∧
      ∀ (d : Disk) (history : History) (file : Text),
        ((Journal.after d {} history).textOf file).count escape =
          (((history.tenures.filter (Tenure.writesTo · d file)).flatMap Tenure.taken).map
            fun entry => entry.2.message.count escape).sum := by
  refine ⟨fun l now r h => ?_, fun formatters now r => ?_, fun d h h' hplain file => ?_,
    Journal.count_escape_textOf⟩
  · refine ⟨_, _, Record.fill_template { l with tty := true } now r,
      Record.fill_template { l with tty := false } now r, ?_, rfl, rfl⟩
    exact (l.paints_line now h).eq
  · exact Formatter.mapM_format formatters (r.sheet now)
  · rw [← Journal.textOf_plain d h, ← Journal.mem_keys_plain d h, hplain, Journal.textOf_plain,
      Journal.mem_keys_plain]
    exact ⟨rfl, .rfl⟩

/-- A record whose level has no name and whose message looks like a format. -/
def unnamedRecord : Record := ⟨37, rootSource, "50% of [INFO]"⟩

def unnamedHistory (tty : Bool) : History :=
  [(0, .start { tty, file := some "log" }), (1, .log 37 "50% of [INFO]")]

theorem unnamedRecord_presented :
    escape ∉ unnamedRecord.message ∧
      (∃ coloured plain, unnamedRecord.fill briefTemplate true 1 = .ok coloured ∧
        unnamedRecord.fill briefTemplate false 1 = .ok plain ∧ withoutColours coloured = plain ∧
        ({ tty := true } : Logger).consoleLine 1 unnamedRecord = coloured ++ "\n" ∧
        ({} : Logger).consoleLine 1 unnamedRecord = plain ++ "\n") ∧
      (unnamedHistory true).plain = (unnamedHistory false).plain ∧
      (Journal.after {} {} (unnamedHistory true)).textOf "log" =
        (Journal.after {} {} (unnamedHistory false)).textOf "log" := by
  have hmessage : escape ∉ unnamedRecord.message := by decide
  exact ⟨hmessage, colours_are_presentation.1 {} 1 unnamedRecord hmessage, rfl,
    (colours_are_presentation.2.2.1 {} _ _ rfl "log").1⟩

end BuildDispatch.Log
