import BuildDispatch.Proofs.Calendar
import BuildDispatch.Proofs.Session.Listing
import BuildDispatch.Proofs.Text.Utf8

/-!
# What a report tells

The report of an info operation has one line for the clock, one for the root directory and one for
each variable. As long as nothing that is reported holds a newline of its own, and no name of a
variable an equals sign, nothing is lost in it: from the octets that are written the date, the time,
the zone, the directory and the environment can all be told, however blanks and equals signs are
spread over them. Only a sink that needs a form in UTF-8 may cut a report short.

## Main statements

* `Workshop.output_info`: what is written, all lines in one.
* `report_determines`: two reports that are written alike tell of the same.
* `surrogateNames_reportedAlike`: two reports that end before they differ.
-/

namespace BuildDispatch

open Run

/-! ### Lines -/

namespace Text

variable {α : Type} {stop : α}

theorem isCut_map {bodies : List (List α)} (h : ∀ body ∈ bodies, stop ∉ body) :
    IsCut stop (bodies.map (· ++ [stop])) := by
  induction bodies with
  | nil => exact .nil
  | cons body bodies ih =>
    rw [List.forall_mem_cons] at h
    exact .cons h.1 (ih h.2)

/-- Lines that are put one behind the other can be told apart. -/
theorem lines_injective [DecidableEq α] {bodies bodies' : List (List α)}
    (h : ∀ body ∈ bodies, stop ∉ body) (h' : ∀ body ∈ bodies', stop ∉ body)
    (heq : (bodies.map (· ++ [stop])).flatten = (bodies'.map (· ++ [stop])).flatten) :
    bodies = bodies' := by
  have hlines : bodies.map (· ++ [stop]) = bodies'.map (· ++ [stop]) := by
    rw [← cutAfter_flatten (isCut_map h), heq, cutAfter_flatten (isCut_map h')]
  exact List.map_injective_iff.mpr (fun _ _ => List.append_cancel_right) hlines

end Text

theorem Trace.output_ofLines (lines : List Text) :
    (Trace.ofLines lines).output = Utf8.encode lines.flatten := by
  induction lines with
  | nil => rfl
  | cons t rest ih =>
    rw [List.flatten_cons, Utf8.encode, List.flatMap_append]
    exact congrArg (Utf8.encode t ++ ·) ih

/-! ### Variables -/

/-- A variable as it is reported. -/
def variableText (v : Text × Text) : Text := v.1 ++ "=" ++ v.2

/-- The first equals sign ends the name, so the value may hold more of them. -/
theorem variableText_injective {v w : Text × Text} (hv : .char '=' ∉ v.1) (hw : .char '=' ∉ w.1)
    (h : variableText v = variableText w) : v = w := by
  have hsign : ("=" : Text) = [CodePoint.char '='] := rfl
  simp only [variableText, hsign, List.append_assoc, List.singleton_append] at h
  obtain ⟨hname, hvalue⟩ := Text.append_stop_inj hv hw h
  exact Prod.ext hname hvalue

theorem map_variableText_injective {vs ws : List (Text × Text)} (hv : ∀ v ∈ vs, .char '=' ∉ v.1)
    (hw : ∀ w ∈ ws, .char '=' ∉ w.1) (h : vs.map variableText = ws.map variableText) : vs = ws := by
  induction vs generalizing ws with
  | nil => exact (List.map_eq_nil_iff.mp h.symm).symm
  | cons v vs ih =>
    cases ws with
    | nil => cases h
    | cons w ws =>
      rw [List.forall_mem_cons] at hv hw
      obtain ⟨hfirst, hrest⟩ := List.cons_eq_cons.mp h
      rw [variableText_injective hv.1 hw.1 hfirst, ih hv.2 hw.2 hrest]

/-! ### Reports -/

namespace Workshop

/-- What a report is about, line by line, without the newlines. -/
def reported (s : Workshop) (env : Environment) : List Text :=
  s.world.clock.text :: s.rootDir :: env.toList.map variableText

/-- What can be told from a report: the clock shows what clocks can show, nothing holds a newline,
and no name an equals sign. -/
structure Reportable (s : Workshop) (env : Environment) : Prop where
  clock : s.world.clock.Valid
  zone : .char '\n' ∉ s.world.clock.zone
  rootDir : .char '\n' ∉ s.rootDir
  names : ∀ v ∈ env.toList, .char '\n' ∉ v.1 ∧ .char '=' ∉ v.1
  values : ∀ v ∈ env.toList, .char '\n' ∉ v.2

section Report

variable {s : Workshop} {env : Environment}

theorem infoLines_eq : s.infoLines env = (s.reported env).map (· ++ [.char '\n']) := by
  have hnewline : ("\n" : Text) = [CodePoint.char '\n'] := rfl
  simp [infoLines, reported, variableText, hnewline]

theorem Reportable.newline_notMem (h : s.Reportable env) :
    ∀ line ∈ s.reported env, .char '\n' ∉ line := by
  have hsign : .char '\n' ∉ ("=" : Text) := by decide
  refine List.forall_mem_cons.mpr ⟨h.clock.newline_notMem_text h.zone,
    List.forall_mem_cons.mpr ⟨h.rootDir, List.forall_mem_map.mpr fun v hv => ?_⟩⟩
  simp only [variableText, List.mem_append, (h.names v hv).1, hsign, h.values v hv, or_self,
    not_false_eq_true]

/-- What is written, all lines in one. A sink without octets beneath never refuses a line. -/
theorem output_info (hdone : s.runner.sink ≠ .text → (s.info env).result = .ok 0) :
    (s.info env).events.output = Utf8.encode (s.infoLines env).flatten := by
  have writes := s.runner.sink.writeAll_writesOut (s.infoLines env)
  have hok : (s.runner.sink.writeAll (s.infoLines env)).result = .ok () := by
    by_cases hsink : s.runner.sink = .text
    · refine writes.result_eq_ok_iff.mpr fun line _ => ?_
      rw [hsink]
      rfl
    · cases hresult : (s.runner.sink.writeAll (s.infoLines env)).result with
      | ok => rfl
      | error failure =>
        have hinfo := hdone hsink
        rw [info, bind_of_error hresult] at hinfo
        cases hinfo
  rw [hok] at writes
  rw [info, bind_of_ok hok, pure_events, List.append_nil, writes.eq_ofLines_of_ok,
    Trace.output_ofLines]

end Report

/-- Two reports tell of the same moment, zone, directory and environment. -/
structure TellsSame (s : Workshop) (env : Environment) (s' : Workshop) (env' : Environment) :
    Prop where
  clock : s.world.clock.Same s'.world.clock
  rootDir : s.rootDir = s'.rootDir
  environment : env = env'

end Workshop

/-- Two reports that are written alike tell of the same, whatever else is different about the
operations, the workshops and the sinks. -/
theorem report_determines {s s' : Workshop} {env env' : Environment} {e e' : Entry}
    (h : s.Reportable env) (h' : s'.Reportable env')
    (hdone : s.runner.sink ≠ .text → (s.execute (.info e) env).result = .ok 0)
    (hdone' : s'.runner.sink ≠ .text → (s'.execute (.info e') env').result = .ok 0)
    (hsame : (s.execute (.info e) env).events.output =
      (s'.execute (.info e') env').events.output) : s.TellsSame env s' env' := by
  have hinfo : (s.info env).events.output = (s'.info env').events.output := hsame
  rw [Workshop.output_info hdone, Workshop.output_info hdone', Workshop.infoLines_eq,
    Workshop.infoLines_eq] at hinfo
  have hlines : s.reported env = s'.reported env' :=
    Text.lines_injective h.newline_notMem h'.newline_notMem (Utf8.encode_injective hinfo)
  obtain ⟨hclock, hlines⟩ := List.cons_eq_cons.mp hlines
  obtain ⟨hrootDir, hvariables⟩ := List.cons_eq_cons.mp hlines
  have hpairs : env.toList = env'.toList :=
    map_variableText_injective (fun v hv => (h.names v hv).2) (fun v hv => (h'.names v hv).2)
      hvariables
  exact {
    clock := ClockReading.text_injective h.clock h'.clock hclock
    rootDir := hrootDir
    environment := congrArg Bindings.mk hpairs }

/-- A spring morning, in a zone that has no name. -/
def morning : ClockReading := ⟨⟨2024, 3, 1⟩, { hour := 9, minute := 5, second := 0 }, ""⟩

theorem valid_morning : morning.Valid := by constructor <;> decide

def morningShop (sink : Sink) : Workshop where
  world := { World.nowhere with clock := morning }
  runner := { logger := {}, sink }
  toolchain := "cargo"
  rootDir := "/work dir"
  provisioner := .toolchain

/-- Variables without a name, without a value, and with an equals sign for a value. -/
def oddVariables : Environment := ⟨[("", "a=b"), ("PATH", ""), (" ", "=")]⟩

theorem morning_determines :
    let report (sink : Sink) := (morningShop sink).execute (.info { name := "env", kind := .info })
    (morningShop .text).Reportable oddVariables ∧ (report .text oddVariables).events.output =
      Utf8.encode "Fri Mar  1 09:05:00  2024\n/work dir\n=a=b\nPATH=\n ==\n" ∧
    (morningShop .text).TellsSame oddVariables (morningShop .textOverOctets) oddVariables := by
  intro report
  have names : ∀ v ∈ oddVariables.toList, .char '\n' ∉ v.1 ∧ .char '=' ∉ v.1 := by decide
  have values : ∀ v ∈ oddVariables.toList, .char '\n' ∉ v.2 := by decide
  have rootDir : .char '\n' ∉ ("/work dir" : Text) := by decide
  have reportable (sink : Sink) : (morningShop sink).Reportable oddVariables :=
    ⟨valid_morning, List.not_mem_nil, rootDir, names, values⟩
  have hsame : (report .text oddVariables).events.output =
      (report .textOverOctets oddVariables).events.output := by decide +kernel
  exact ⟨reportable .text, by decide +kernel, report_determines (reportable .text)
    (reportable .textOverOctets) (fun _ => rfl) (fun _ => rfl) hsame⟩

/-- The second variable has a name without a form in UTF-8. -/
def surrogateName (offset : Fin 2048) : Environment :=
  ⟨[("PATH", "/bin"), ([.surrogate offset], "/usr/lib")]⟩

/-- Both reports end behind the first variable. -/
theorem surrogateNames_reportedAlike :
    let shop := morningShop .textOverOctets
    let report := shop.execute (.info { name := "env", kind := .info })
    shop.Reportable (surrogateName 0) ∧ shop.Reportable (surrogateName 1) ∧
      (report (surrogateName 0)).events.output = (report (surrogateName 1)).events.output ∧
      surrogateName 0 ≠ surrogateName 1 := by
  intro shop report
  have rootDir : .char '\n' ∉ ("/work dir" : Text) := by decide
  have reportable₀ : shop.Reportable (surrogateName 0) :=
    ⟨valid_morning, List.not_mem_nil, rootDir, by decide, by decide⟩
  have reportable₁ : shop.Reportable (surrogateName 1) :=
    ⟨valid_morning, List.not_mem_nil, rootDir, by decide, by decide⟩
  have hsame : (report (surrogateName 0)).events.output =
      (report (surrogateName 1)).events.output := by decide +kernel
  refine ⟨reportable₀, reportable₁, hsame, fun heq => ?_⟩
  have hpairs := congrArg Bindings.toList heq
  simp [surrogateName] at hpairs

end BuildDispatch
