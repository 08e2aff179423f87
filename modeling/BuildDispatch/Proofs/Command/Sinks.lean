import BuildDispatch.Proofs.Command.Filtering

/-!
# One stream, three sinks

What the output is written to changes the octets of each line that is written, and nothing else
that a stream does. Where lines are decoded one by one, they come to the same characters as the
output as a whole, however ill-formed it is.

## Main statements

* `Runner.stream_mapEvents`: a stream on any sink is the stream of octets, seen through the sink.
* `Runner.stream_sinks_agree`: the sinks receive the same output, each in its own form.
-/

namespace BuildDispatch

open Run

namespace Run

variable {α β : Type}

/-- The same run with its events in another form. -/
def mapEvents (g : Event → Event) (r : Run α) : Run α := ⟨r.events.map g, r.result⟩

theorem mapEvents_bind (g : Event → Event) (r : Run α) (f : α → Run β) :
    (r >>= f).mapEvents g = r.mapEvents g >>= fun a => (f a).mapEvents g := by
  cases h : r.result with
  | error e =>
    rw [bind_of_error h, bind_of_error (r := r.mapEvents g) h]
    rfl
  | ok a =>
    rw [bind_of_ok h, bind_of_ok (r := r.mapEvents g) h]
    simp [mapEvents]

theorem mapEvents_of_every {g : Event → Event} {r : Run α} (h : r.Every fun ev => g ev = ev) :
    r.mapEvents g = r := by
  have hevents : r.events.map g = r.events := by
    rw [List.map_congr_left h]
    exact List.map_id _
  rw [mapEvents, hevents]

/-- The two runs may begin with anything that has no other form. -/
theorem bind_eq_mapEvents {g : Event → Event} {r : Run α} {f f' : α → Run β}
    (hr : r.Every fun ev => g ev = ev) (hf : ∀ a, f a = (f' a).mapEvents g) :
    r >>= f = (r >>= f').mapEvents g := by
  rw [mapEvents_bind, mapEvents_of_every hr]
  exact bind_congr hf

end Run

/-- An event of a stream of octets, as it is where the output goes to a sink. -/
def Event.through (sink : Sink) : Event → Event
  | .wrote octets => .wrote (sink.receive octets)
  | ev => ev

namespace Trace

variable (sink : Sink) (t : Trace)

/-- A sink changes nothing but output. -/
theorem filterMap_map_through {α : Type} {pick : Event → Option α}
    (hpick : ∀ octets, pick (.wrote octets) = none) :
    (t.map (Event.through sink)).filterMap pick = t.filterMap pick := by
  refine filterMap_map_of (fun ev => ?_) t
  cases ev with
  | wrote octets => exact (hpick _).trans (hpick _).symm
  | _ => rfl

theorem writes_map_through :
    writes (t.map (Event.through sink)) = t.writes.map sink.receive := by
  refine filterMap_map_map (fun ev => ?_) t
  cases ev <;> rfl

end Trace

namespace Runner

/-- Filtering is the same for all sinks; only the octets written differ. -/
theorem filterLines_through (sink : Sink) (f : LineFilter) (lines : List Octets) :
    filterLines sink f lines =
      ((filterLines .octets f lines).1.map (Event.through sink),
        (filterLines .octets f lines).2) := by
  rw [filterLines_eq, filterLines_eq, List.map_map]
  rfl

theorem stream_mapEvents (r : Runner) (sink : Sink) (w : World) (command : List Text)
    (env : Environment) (d : Option Text) (f : LineFilter) :
    { r with sink }.stream w command env d f =
      ({ r with sink := .octets }.stream w command env d f).mapEvents (Event.through sink) := by
  have logged : ∀ record, Event.through sink (.logged record) = .logged record := fun _ => rfl
  refine bind_eq_mapEvents (every_say _ _ _ _ logged) fun _ => ?_
  dsimp only
  split
  · exact bind_eq_mapEvents (announce_every logged _ _) fun _ => rfl
  · refine bind_eq_mapEvents (checkDirectory_every w d) fun _ => ?_
    refine bind_eq_mapEvents (attempt_every w rfl) fun found => ?_
    cases found with
    | none => exact bind_eq_mapEvents (reportMissing_every logged _ _) fun _ => rfl
    | some finished =>
      obtain ⟨status, stdout⟩ := finished
      dsimp only
      rw [filterLines_through sink, mapEvents_bind]
      rfl

/-- In front of what is written anything may happen that writes nothing. -/
theorem isCut_writes_bind {α β : Type} {r : Run α} {f : α → Run β}
    (hr : r.Every fun ev => ev.isWrite = false)
    (hf : ∀ a, Text.IsCut Utf8.newline (f a).events.writes) :
    Text.IsCut Utf8.newline (r >>= f).events.writes := by
  have silent : r.events.writes = [] := by
    rw [← Trace.writes_filter_isWrite, (hr.shows rfl).events]
    rfl
  cases h : r.result with
  | error e =>
    rw [bind_of_error h, silent]
    exact .nil
  | ok a =>
    rw [bind_of_ok h, Trace.writes_append, silent]
    exact hf a

/-- Whatever becomes of a command, what is written to octets is a row of lines. -/
theorem isCut_writes_stream {r : Runner} (hsink : r.sink = .octets) (w : World)
    (command : List Text) (env : Environment) (d : Option Text) (f : LineFilter) :
    Text.IsCut Utf8.newline (r.stream w command env d f).events.writes := by
  have logged : ∀ record, (Event.logged record).isWrite = false := fun _ => rfl
  refine isCut_writes_bind (every_say _ _ _ _ logged) fun _ => ?_
  dsimp only
  split
  · exact isCut_writes_bind (announce_every logged _ _) fun _ => .nil
  · refine isCut_writes_bind (checkDirectory_every w d) fun _ => ?_
    refine isCut_writes_bind (attempt_every w rfl) fun found => ?_
    cases found with
    | none => exact isCut_writes_bind (reportMissing_every logged _ _) fun _ => .nil
    | some finished =>
      obtain ⟨status, stdout⟩ := finished
      dsimp only
      change Text.IsCut _ (Trace.writes ((filterLines r.sink f _).1 ++ []))
      rw [List.append_nil, hsink, writes_filterLines]
      exact (Text.isCut_cutAfter ..).filter _

/-- A text without octets beneath receives the decoded lines. -/
theorem flatten_map_receive_text {lines : List Octets} (h : Text.IsCut Utf8.newline lines) :
    (lines.map Sink.text.receive).flatten =
      Utf8.encode (Text.ofChars (Utf8.decodeLossy lines.flatten)) := by
  rw [Utf8.decodeLossy_flatten h, Utf8.encode, Text.ofChars, List.map_flatMap, List.flatMap_assoc]
  rfl

theorem output_stream (r : Runner) (sink : Sink) (w : World) (command : List Text)
    (env : Environment) (d : Option Text) (f : LineFilter) :
    ({ r with sink }.stream w command env d f).events.output =
      (({ r with sink := .octets }.stream w command env d f).events.writes.map
        sink.receive).flatten := by
  rw [stream_mapEvents, Trace.output_eq_flatten_writes]
  exact congrArg List.flatten (Trace.writes_map_through ..)

/-- Octets come through as they are, and lines that are decoded one by one come to the characters
that the whole output is read as. -/
theorem stream_sinks_agree (r : Runner) (w : World) (command : List Text) (env : Environment)
    (d : Option Text) (f : LineFilter) :
    let on := fun sink => { r with sink }.stream w command env d f
    let output := (on .octets).events.output
    (on .textOverOctets).events.output = output ∧
      Utf8.Replaces output (Utf8.decodeLossy output) ∧
      (∀ chars, (on .text).events.output = Utf8.encode (Text.ofChars chars) ↔
        Utf8.Replaces output chars) ∧
      ∀ sink, (on sink).result = (on .octets).result ∧
        (on sink).events.records = (on .octets).events.records ∧
        (on sink).events.attempts = (on .octets).events.attempts := by
  intro on output
  have through : ∀ sink, on sink = (on .octets).mapEvents (Event.through sink) :=
    fun sink => stream_mapEvents r sink w command env d f
  have hcut : Text.IsCut Utf8.newline (on .octets).events.writes :=
    isCut_writes_stream (r := { r with sink := .octets }) rfl w command env d f
  have decoded : (on .text).events.output =
      Utf8.encode (Text.ofChars (Utf8.decodeLossy output)) := by
    rw [output_stream r .text, flatten_map_receive_text hcut, ← Trace.output_eq_flatten_writes]
  refine ⟨?_, Utf8.replaces_decodeLossy output, fun chars => ?_, fun sink => ⟨?_, ?_, ?_⟩⟩
  · exact (output_stream r .textOverOctets ..).trans (output_stream r .octets ..).symm
  · rw [decoded, Utf8.encode_ofChars_inj, Utf8.replaces_iff, eq_comm]
  · rw [through sink]
    rfl
  · rw [through sink]
    exact Trace.filterMap_map_through _ _ fun _ => rfl
  · rw [through sink]
    exact Trace.filterMap_map_through _ _ fun _ => rfl

end Runner
end BuildDispatch
