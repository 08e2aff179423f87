import BuildDispatch.Proofs.Command.Runner
import BuildDispatch.Proofs.Text.Utf8

/-!
# What a stream lets through

Of the output of a command, a stream writes the lines that do not hold the tag, as they are and in
order. Only the last line of an output may lack a newline, so what is written is again cut into the
lines that were kept: the tag is nowhere in it, not even across two lines, and a second filter finds
nothing to drop.

## Main statements

* `Runner.filterLines_eq`: the lines that are written, and the count of those that are not.
* `filtered_of_writes`: what that says about the output as a whole.
* `Runner.stream_filters`: a stream filters the lines of what a command puts out, and filtering them
  again changes nothing.
-/

namespace BuildDispatch

open Run

/-! ### What is written -/

def Event.isWrite : Event → Bool
  | .wrote _ => true
  | _ => false

namespace Trace

/-- The pieces of the output, in order. -/
def writes (t : Trace) : List Octets := t.filterMap fun
  | .wrote octets => some octets
  | _ => none

theorem writes_append (t u : Trace) : writes (t ++ u) = writes t ++ writes u :=
  List.filterMap_append

theorem output_eq_flatten_writes (t : Trace) : t.output = t.writes.flatten := by
  induction t with
  | nil => rfl
  | cons ev t ih => cases ev <;> simpa [output, writes, List.filterMap_cons] using ih

theorem writes_filter_isWrite (t : Trace) : writes (t.filter Event.isWrite) = t.writes := by
  refine filterMap_filter_of (fun ev hev => ?_) t
  cases ev with
  | wrote octets => cases hev
  | _ => rfl

theorem writes_map_wrote (pieces : List Octets) : writes (pieces.map .wrote) = pieces := by
  rw [writes, List.filterMap_map]
  exact List.filterMap_some

end Trace

/-! ### Filtering -/

/-- A line that holds the octets of a tag, as the filter sees it. -/
theorem Line.holds_octets (tag : Text) (line : Octets) :
    (Line.octets line).holds tag = decide (Utf8.encode tag <:+: line) := by
  rw [Bool.eq_iff_iff, decide_eq_true_iff]
  exact Text.occursIn_iff

theorem LineFilter.tag_of_forTag {tag : Text} {f : LineFilter}
    (h : LineFilter.forTag tag = .ok f) : f = { tag } := by
  unfold forTag at h
  cases hencode : Utf8.encodeStrict tag with
  | error cause =>
    rw [hencode] at h
    cases h
  | ok octets =>
    rw [hencode] at h
    exact (Except.ok.inj h).symm

namespace Runner

theorem filterLines_eq (sink : Sink) (f : LineFilter) (lines : List Octets) :
    filterLines sink f lines =
      ((lines.filter fun line => ¬ Utf8.encode f.tag <:+: line).map
          fun line => .wrote (sink.receive line),
        { f with
          dropped := f.dropped + lines.countP fun line => Utf8.encode f.tag <:+: line }) := by
  induction lines generalizing f with
  | nil => rfl
  | cons line rest ih =>
    rw [filterLines, LineFilter.feed, Line.holds_octets]
    by_cases hline : Utf8.encode f.tag <:+: line
    · simp [hline, ih, Nat.add_assoc, Nat.add_comm 1]
    · simp [hline, ih]

theorem writes_filterLines (f : LineFilter) (lines : List Octets) :
    (filterLines .octets f lines).1.writes =
      lines.filter fun line => ¬ Utf8.encode f.tag <:+: line := by
  rw [filterLines_eq]
  exact Trace.writes_map_wrote _

/-- The command is really run, and to its end. -/
structure Completes (r : Runner) (w : World) (command : List Text) (d : Option Text)
    (status : Int) (stdout : Octets) : Prop where
  real : r.dryRun = false
  directory : ∀ path ∈ d, w.isDirectory (Path.ofText path).text = true
  outcome : w.outcome command = .exited status stdout

theorem checkDirectory_of_forall {w : World} {d : Option Text}
    (h : ∀ path ∈ d, w.isDirectory (Path.ofText path).text = true) :
    checkDirectory w d = pure () := by
  cases d with
  | none => rfl
  | some path => exact checkDirectory_of_isDirectory (h path rfl)

theorem Completes.stream_shows {r : Runner} {w : World} {command : List Text} {d : Option Text}
    {status : Int} {stdout : Octets} (h : r.Completes w command d status stdout)
    (env : Environment) (f : LineFilter) :
    (r.stream w command env d f).Shows Event.isWrite
      (filterLines r.sink f (Text.cutAfter Utf8.newline stdout)).1
      (.ok (status, (filterLines r.sink f (Text.cutAfter Utf8.newline stdout)).2)) := by
  have written : ∀ ev ∈ (filterLines r.sink f (Text.cutAfter Utf8.newline stdout)).1,
      ev.isWrite = true := by
    rw [filterLines_eq]
    intro ev hev
    obtain ⟨line, -, rfl⟩ := List.mem_map.mp hev
    rfl
  unfold stream
  refine Shows.after ?_ (shows_say _ _ _ _ fun _ => rfl)
  rw [checkDirectory_of_forall h.directory, if_neg (by simp [h.real])]
  refine Shows.after ?_ (shows_pure _)
  have tried : (attempt w ⟨command, d, env, .piped⟩).Shows Event.isWrite []
      (.ok (some (status, stdout))) := by
    rw [attempt, h.outcome]
    exact ⟨rfl, rfl⟩
  refine Shows.after ?_ tried
  exact Shows.before ⟨List.filter_eq_self.mpr written, rfl⟩ (shows_pure _)

end Runner

/-! ### The lines that are left -/

/-- The output of a command has gone through a filter for a tag: lines with the tag are missing and
were counted, all others are there. -/
structure Filtered (tag : Text) (lines : List Octets) (events : Trace) (dropped : Nat) : Prop where
  writes : events.writes = lines.filter fun line => ¬ Utf8.encode tag <:+: line
  output : events.output = events.writes.flatten
  dropped_eq : dropped = lines.countP fun line => Utf8.encode tag <:+: line
  accounted : dropped + events.writes.length = lines.length
  unchanged : (∀ line ∈ lines, ¬ Utf8.encode tag <:+: line) → events.output = lines.flatten
  absent : tag ≠ [] → .char '\n' ∉ tag → ¬ Utf8.encode tag <:+: events.output

section Lines

variable {tag : Text} {lines : List Octets}

theorem filtered_of_writes (hcut : Text.IsCut Utf8.newline lines) {events : Trace}
    (h : events.writes = lines.filter fun line => ¬ Utf8.encode tag <:+: line) :
    Filtered tag lines events (lines.countP fun line => Utf8.encode tag <:+: line) where
  writes := h
  output := events.output_eq_flatten_writes
  dropped_eq := rfl
  accounted := by
    have hcount := lines.length_eq_countP_add_countP fun line => Utf8.encode tag <:+: line
    simp only [decide_eq_true_eq] at hcount
    rw [h, ← List.countP_eq_length_filter]
    exact hcount.symm
  unchanged habsent := by
    have hall : lines.filter (fun line => ¬ Utf8.encode tag <:+: line) = lines :=
      List.filter_eq_self.mpr fun line hline => decide_eq_true (habsent line hline)
    rw [events.output_eq_flatten_writes, h, hall]
  absent hne hnewline hoccurs := by
    rw [events.output_eq_flatten_writes, h] at hoccurs
    -- A tag without a newline stands in one of the lines that were kept.
    obtain ⟨line, hline, htag⟩ := Text.exists_mem_of_infix_flatten (hcut.filter _)
      (mt Utf8.encode_eq_nil_iff.mp hne) (mt Utf8.newline_mem_encode hnewline) hoccurs
    exact of_decide_eq_true (List.mem_filter.mp hline).2 htag

/-- Cutting the output again gives the lines that were kept. -/
theorem Filtered.cutAfter_output {events : Trace} {dropped : Nat}
    (h : Filtered tag lines events dropped) (hcut : Text.IsCut Utf8.newline lines) :
    Text.cutAfter Utf8.newline events.output = events.writes := by
  rw [h.output, h.writes]
  exact Text.cutAfter_flatten (hcut.filter _)

end Lines

namespace Runner

theorem Completes.stream_filtered {r : Runner} {w : World} {command : List Text}
    {d : Option Text} {status : Int} {stdout : Octets} (h : r.Completes w command d status stdout)
    (hsink : r.sink = .octets) (env : Environment) (tag : Text) :
    ∃ dropped, (r.stream w command env d { tag }).result = .ok (status, { tag, dropped }) ∧
      Filtered tag (Text.cutAfter Utf8.newline stdout) (r.stream w command env d { tag }).events
        dropped := by
  have shown := h.stream_shows env { tag }
  rw [hsink] at shown
  have hresult := shown.result
  rw [filterLines_eq, Nat.zero_add] at hresult
  refine ⟨_, hresult, filtered_of_writes (Text.isCut_cutAfter ..) ?_⟩
  rw [← Trace.writes_filter_isWrite, shown.events]
  exact writes_filterLines ..

/-- A second command puts out what is left of the output of the first. -/
theorem stream_filters {r : Runner} {w : World} {command : List Text} {d : Option Text}
    {status : Int} {stdout : Octets} (h : r.Completes w command d status stdout)
    (hsink : r.sink = .octets) {tag : Text} {f : LineFilter}
    (htag : LineFilter.forTag tag = .ok f) (env : Environment) :
    ∃ lines dropped, Text.IsCut Utf8.newline lines ∧ lines.flatten = stdout ∧
      (r.stream w command env d f).result = .ok (status, { tag, dropped }) ∧
      Filtered tag lines (r.stream w command env d f).events dropped ∧
      ∀ {r' : Runner} {w' : World} {command' : List Text} {d' : Option Text} {status' : Int},
        r'.Completes w' command' d' status' (r.stream w command env d f).events.output →
        r'.sink = .octets → ∀ env',
          (r'.stream w' command' env' d' f).result = .ok (status', f) ∧
          (r'.stream w' command' env' d' f).events.output =
            (r.stream w command env d f).events.output := by
  obtain rfl := LineFilter.tag_of_forTag htag
  have hcut := Text.isCut_cutAfter Utf8.newline stdout
  have hwhole := Text.flatten_cutAfter Utf8.newline stdout
  obtain ⟨dropped, hresult, hfiltered⟩ := h.stream_filtered hsink env tag
  refine ⟨_, dropped, hcut, hwhole, hresult, hfiltered, ?_⟩
  intro r' w' command' d' status' h' hsink' env'
  obtain ⟨dropped', hresult', hfiltered'⟩ := h'.stream_filtered hsink' env' tag
  have hlines := hfiltered.cutAfter_output hcut
  have hkept : ∀ line ∈ Text.cutAfter Utf8.newline (r.stream w command env d { tag }).events.output,
      ¬ Utf8.encode tag <:+: line := by
    rw [hlines, hfiltered.writes]
    exact fun line hline => of_decide_eq_true (List.mem_filter.mp hline).2
  have hnone : dropped' = 0 := by
    rw [hfiltered'.dropped_eq, List.countP_eq_zero]
    exact fun line hline => by simpa using hkept line hline
  subst hnone
  refine ⟨hresult', ?_⟩
  rw [hfiltered'.unchanged hkept, Text.flatten_cutAfter]

/-- Lines of all sorts: one that is ill-formed, one with a tag and more, an empty one, one that ends
with two stops, and one without a newline. -/
def noisy : Octets :=
  [0x6F, 0x6B, 0xFF, 0x0A, 0x54, 0x50, 0xC3, 0x0A, 0x0A, 0x54, 0x0D, 0x0A, 0x50]

/-- A place where every command puts out the same octets before it is killed. -/
def noisyWorld (stdout : Octets) : World :=
  { World.nowhere with
    isDirectory := fun _ => true
    outcome := fun _ => .exited (-9) stdout }

def octetRunner : Runner where
  logger := {}
  sink := .octets

theorem octetRunner_completes (command : List Text) (d : Option Text) (stdout : Octets) :
    octetRunner.Completes (noisyWorld stdout) command d (-9) stdout :=
  ⟨rfl, fun _ _ => rfl, rfl⟩

theorem noisy_filtered : ∃ f, LineFilter.forTag "TP" = .ok f ∧
    let output : Octets := [0x6F, 0x6B, 0xFF, 0x0A, 0x0A, 0x54, 0x0D, 0x0A, 0x50]
    let first := octetRunner.stream (noisyWorld noisy) ["cargo", "test"] .empty (some "/work") f
    let second := octetRunner.stream (noisyWorld output) ["cat"] .empty none f
    first.result = .ok (-9, { tag := "TP", dropped := 1 }) ∧ first.events.output = output ∧
      second.result = .ok (-9, f) ∧ second.events.output = output := by
  have htag : LineFilter.forTag "TP" = .ok { tag := "TP" } := rfl
  refine ⟨_, htag, ?_⟩
  intro output first second
  have hfirst := octetRunner_completes ["cargo", "test"] (some "/work") noisy
  obtain ⟨lines, dropped, hcut, hwhole, hresult, hfiltered, hagain⟩ :=
    stream_filters hfirst rfl htag .empty
  obtain rfl : lines = [[0x6F, 0x6B, 0xFF, 0x0A], [0x54, 0x50, 0xC3, 0x0A], [0x0A],
      [0x54, 0x0D, 0x0A], [0x50]] := by
    rw [← Text.cutAfter_flatten hcut, hwhole]
    decide
  have hdropped : dropped = 1 := hfiltered.dropped_eq.trans (by decide)
  have houtput : first.events.output = output := by
    rw [hfiltered.output, hfiltered.writes]
    decide
  subst hdropped
  have hsecond := octetRunner_completes ["cat"] none output
  rw [← houtput] at hsecond
  obtain ⟨hsame, hunchanged⟩ := hagain hsecond rfl .empty
  rw [houtput] at hsame hunchanged
  exact ⟨hresult, houtput, hsame, hunchanged⟩

end Runner
end BuildDispatch
