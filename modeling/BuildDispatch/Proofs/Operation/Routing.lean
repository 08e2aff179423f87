import BuildDispatch.Proofs.Operation.Success
import BuildDispatch.Proofs.Run.Alongside
import BuildDispatch.Proofs.Text.Occurrence

/-!
# Filtered and unfiltered

A command whose output goes through a filter is attempted like one whose output is passed on, and
comes to the same. This holds for any predicate on lines, whatever it remembers and answers; so an
operation with a tag does what it does without one, except where the output goes. Only a tag that
has no form in UTF-8 keeps the operation from running anything.

## Main statements

* `Runner.streamBy`: a stream through any predicate on lines.
* `Runner.run_alongside_streamBy`: such a stream goes alongside a plain run.
* `Workshop.filter_reroutes`: what a tag changes about a forward operation.
* `surrogateTag_refused`: a tag that is not even a tag.
-/

namespace BuildDispatch

open Run

/-! ### What is noted -/

/-- Everything but output and what is logged for diagnosis only. -/
def Event.isNoted : Event → Bool
  | .logged r => r.level ≠ .debug
  | .wrote _ => false
  | _ => true

def Attempt.piped (a : Attempt) : Attempt := { a with routing := .piped }

/-- The same event, but with the output of commands piped. -/
def Event.piped : Event → Event
  | .attempted a => .attempted a.piped
  | ev => ev

namespace Run

variable {α β : Type}

/-- The second run is noted like the first, and its answer stands for that of the first. Its
commands are the same but for their output, which comes to the program. -/
structure Reroutes (answer : β → α) (direct : Run α) (filtered : Run β) : Prop where
  result : direct.result = filtered.result.map answer
  noted : filtered.events.filter Event.isNoted =
    (direct.events.filter Event.isNoted).map Event.piped
  attempts : filtered.events.attempts = direct.events.attempts.map Attempt.piped

theorem attempts_map_piped (t : Trace) :
    Trace.attempts (t.map Event.piped) = t.attempts.map Attempt.piped := by
  refine Trace.filterMap_map_map (fun ev => ?_) t
  cases ev <;> rfl

theorem Alongside.reroutes {answer : β → α} {direct : Run α} {filtered : Run β}
    (h : direct.Alongside Event.isNoted (fun ev ev' => ev.piped = ev') (fun a b => a = answer b)
      filtered) : Reroutes answer direct filtered := by
  obtain ⟨hnoted, hresult⟩ := alongside_eq_iff.mp h
  refine ⟨hresult, hnoted, ?_⟩
  have hattempts : ∀ t : Trace, Trace.attempts (t.filter Event.isNoted) = t.attempts :=
    Trace.attempts_filter fun _ => rfl
  rw [← hattempts, hnoted, attempts_map_piped, hattempts]

end Run

/-- An attempt is a single event, and the world alone says how it ends. -/
theorem attempt_eq (w : World) (a : Attempt) :
    attempt w a = ⟨[.attempted a], w.finished a.command⟩ := by
  unfold attempt World.finished
  cases w.outcome a.command <;> rfl

namespace Runner

/-! ### Streams through any predicate -/

variable {σ : Type}

/-- Pass lines through a predicate that may remember what it has seen; the lines kept are
written. -/
def siftLines (sink : Sink) (keep : σ → Octets → Bool × σ) : σ → List Octets → Trace × σ
  | m, [] => ([], m)
  | m, line :: rest =>
    let (kept, m) := keep m line
    let (events, m) := siftLines sink keep m rest
    (if kept then .wrote (sink.receive line) :: events else events, m)

/-- Run a command and pass each line of its output through a predicate. -/
def streamBy (r : Runner) (w : World) (command : List Text) (environment : Environment)
    (directory : Option Text) (keep : σ → Octets → Bool × σ) (m : σ) : Run (Int × σ) := do
  r.logger.debug ("Running (filtered): " ++ commandText command)
  if r.dryRun then
    r.announce command
    pure (0, m)
  else
    checkDirectory w directory
    match ← attempt w ⟨command, directory, environment, .piped⟩ with
    | some (status, stdout) =>
      let (events, m) := siftLines r.sink keep m (Text.cutAfter 0x0A stdout)
      .emitAll events
      pure (status, m)
    | none =>
      r.reportMissing command
      pure (commandNotFound, m)

/-- A line filter is such a predicate. -/
theorem filterLines_eq_siftLines (sink : Sink) :
    filterLines sink = siftLines sink (fun f line => f.feed (.octets line)) := by
  funext f lines
  induction lines generalizing f with
  | nil => rfl
  | cons line rest ih => simp only [filterLines, siftLines, ih]

theorem stream_eq_streamBy (r : Runner) (w : World) (command : List Text) (env : Environment)
    (d : Option Text) (f : LineFilter) :
    r.stream w command env d f =
      r.streamBy w command env d (fun f line => f.feed (.octets line)) f := by
  unfold stream streamBy
  exact filterLines_eq_siftLines r.sink ▸ rfl

theorem siftLines_unnoted (sink : Sink) (keep : σ → Octets → Bool × σ) (m : σ)
    (lines : List Octets) : ∀ ev ∈ (siftLines sink keep m lines).1, ev.isNoted = false := by
  induction lines generalizing m with
  | nil => simp [siftLines]
  | cons line rest ih =>
    simp only [siftLines]
    split
    · intro ev hev
      rcases List.mem_cons.mp hev with rfl | hev
      · rfl
      · exact ih _ ev hev
    · exact ih _

section Alongside

variable (r : Runner) (w : World) (command : List Text) (env : Environment) (d : Option Text)
  (keep : σ → Octets → Bool × σ) (m : σ)

/-- Both ways to run a command make the same attempt and answer with its outcome. -/
theorem run_alongside_streamBy :
    (r.run w command env d false).Alongside Event.isNoted (fun ev ev' => ev.piped = ev')
      (fun status found => status = found.1) (r.streamBy w command env d keep m) := by
  have tried : (attempt w ⟨command, d, env, .inherited⟩).Alongside Event.isNoted
      (fun ev ev' => ev.piped = ev') (· = ·) (attempt w ⟨command, d, env, .piped⟩) := by
    rw [attempt_eq, attempt_eq]
    exact ⟨.cons rfl .nil, alike_self _⟩
  -- What is left of both once they have logged what they are about to do.
  have rest : (if r.dryRun then (do r.announce command; pure 0 : Run Int) else do
        checkDirectory w d
        match ← attempt w ⟨command, d, env, .inherited⟩ with
        | some (status, _) => pure status
        | none =>
          r.reportMissing command
          pure commandNotFound).Alongside Event.isNoted (fun ev ev' => ev.piped = ev')
      (fun status found => status = found.1) (r.streamBy w command env d keep m) := by
    refine Alongside.after_right ?_ (shows_debug rfl _)
    split
    · refine (alongside_self ?_).bind fun _ _ _ => alongside_pure rfl
      exact announce_every (fun _ => rfl) r command
    · refine (alongside_self (checkDirectory_every w d)).bind fun _ _ _ => ?_
      refine tried.bind fun found _ heq => ?_
      subst heq
      cases found with
      | none =>
        refine (alongside_self ?_).bind fun _ _ _ => alongside_pure rfl
        exact reportMissing_every (fun _ => rfl) r command
      | some finished =>
        obtain ⟨status, stdout⟩ := finished
        have silent := every_emitAll (siftLines_unnoted r.sink keep m (Text.cutAfter 0x0A stdout))
        exact Alongside.after_right (alongside_pure rfl) (silent.shows rfl)
  unfold run
  refine Alongside.after_left ?_ (shows_debug rfl _)
  cases d with
  | none => exact rest
  | some d =>
    refine Alongside.after_left ?_ (shows_debug rfl _)
    exact rest

/-- Whatever the predicate answers, nothing comes of it but output. -/
theorem run_reroutes_streamBy :
    Reroutes Prod.fst (r.run w command env d false) (r.streamBy w command env d keep m) :=
  (run_alongside_streamBy r w command env d keep m).reroutes

end Alongside
end Runner

/-! ### Forward operations -/

namespace Workshop

variable (s : Workshop) (e : Entry) (env : Environment)

/-- Run a command with its output through the filter for a tag. -/
def runTagged (tag : Text) (command : List Text) (env : Environment) : Run Int := do
  let filter ← .ofResult ((LineFilter.forTag tag).mapError .unencodable)
  let (status, filter) ← s.runner.stream s.world command env (some s.rootDir) filter
  s.runner.logger.debug ("Dropped " ++ toString filter.dropped ++ " lines tagged " ++ tag)
  pure status

/-- A forward operation, but for the way its command is run. -/
def forwardBy (run : List Text → Run Int) : Run Int := do
  let command ← .ofResult (e.command s.toolchain e.args)
  s.runner.logger.info (e.name ++ ": " ++ commandText command)
  let status ← run command
  s.judge e.name status
  pure status

variable {s e env}

theorem forward_of_plain (h : e.outputFilter.isNothing = true) :
    s.forward e env = s.forwardBy e fun command => s.run command env false := by
  unfold forward
  simp only [h, if_true]
  rfl

theorem forward_of_tag (h : e.outputFilter.isNothing = false) {tag : Text}
    (hview : e.outputFilter.view = .str tag) :
    s.forward e env = s.forwardBy e fun command => s.runTagged tag command env := by
  unfold forward forwardBy runTagged
  simp only [h, hview, bind_assoc, pure_bind]
  rfl

/-- What is no text cannot be a tag. -/
theorem forward_of_noText (h : e.outputFilter.isNothing = false)
    (hview : ∀ tag, e.outputFilter.view ≠ .str tag) :
    s.forward e env = s.forwardBy e fun _ =>
      .fail (.noAttribute e.outputFilter.view.fullKindName "encode") := by
  unfold forward forwardBy
  simp only [h, Bool.false_eq_true, if_false]

section Attempts

variable (run : List Text → Run Int) {keep : Event → Bool}

/-- Apart from logging an operation does what its command does. -/
theorem forwardBy_shows (hkeep : ∀ r, keep (.logged r) = false) {command : List Text}
    (hcommand : e.command s.toolchain e.args = .ok command) {t : Trace}
    {result : Except Failure Int} (hrun : (run command).Shows keep t result) :
    (s.forwardBy e run).Shows keep t result := by
  unfold forwardBy
  rw [hcommand]
  refine Shows.after ?_ (shows_ofResult _)
  refine Shows.after ?_ (shows_say _ _ _ _ hkeep)
  exact hrun.bind_same (judged_shows hkeep s e.name)

theorem forwardBy_shows_of_error {failure : Failure}
    (hcommand : e.command s.toolchain e.args = .error failure) :
    (s.forwardBy e run).Shows keep [] (.error failure) := by
  unfold forwardBy
  rw [hcommand]
  exact (shows_ofResult _).bind_error

/-- With its output through a filter a command does what its stream does. -/
theorem runTagged_shows (hkeep : ∀ r, keep (.logged r) = false) {tag : Text} {f : LineFilter}
    (hf : LineFilter.forTag tag = .ok f) {command : List Text} {t : Trace}
    {result : Except Failure (Int × LineFilter)}
    (hstream : (s.runner.stream s.world command env (some s.rootDir) f).Shows keep t result) :
    (s.runTagged tag command env).Shows keep t (result.map Prod.fst) := by
  unfold runTagged
  rw [hf]
  refine Shows.after ?_ (shows_ofResult _)
  exact hstream.bind_map fun found => Shows.after (shows_pure _) (shows_say _ _ _ _ hkeep)

/-- A tag without a form in UTF-8 is refused before its command is attempted. -/
theorem runTagged_shows_of_unencodable {tag : Text} {cause : Utf8.Unencodable}
    (hcause : LineFilter.forTag tag = .error cause) (command : List Text) :
    (s.runTagged tag command env).Shows keep [] (.error (.unencodable cause)) := by
  unfold runTagged
  rw [hcause]
  exact (shows_ofResult _).bind_error

/-- A command is attempted once, if it is to be run and there is a place to run it in. -/
theorem attempts_run (s : Workshop) (args : List Text) (env : Environment) :
    (s.run (s.toolchain :: args) env false).events.attempts =
      if s.runner.dryRun = false ∧ s.world.isDirectory (Path.ofText s.rootDir).text = true then
        [⟨s.toolchain :: args, some s.rootDir, env, .inherited⟩]
      else [] := by
  split
  · next h => exact (run_shows h.1 h.2 args env false).attempts_eq
  · next h =>
    cases hdry : s.runner.dryRun with
    | true => exact (Runner.run_shows_of_dryRun hdry ..).attempts_eq
    | false =>
      have hdir := Bool.eq_false_iff.mpr fun hdir => h ⟨hdry, hdir⟩
      obtain ⟨failure, hrefused⟩ := Runner.run_refuses hdry hdir (s.toolchain :: args) env false
      exact hrefused.attempts_eq

/-- What a forward operation attempts if its output is not filtered. -/
def plainAttempts (s : Workshop) (e : Entry) (env : Environment) : List Attempt :=
  match e.command s.toolchain e.args with
  | .error _ => []
  | .ok command =>
    if s.runner.dryRun = false ∧ s.world.isDirectory (Path.ofText s.rootDir).text = true then
      [⟨command, some s.rootDir, env, .inherited⟩]
    else []

theorem attempts_forward_of_plain (hplain : e.outputFilter.isNothing = true) :
    (s.forward e env).events.attempts = s.plainAttempts e env := by
  rw [forward_of_plain hplain]
  unfold plainAttempts
  cases hselector : e.selector with
  | error cause =>
    have hcommand := Entry.command_of_selector_error hselector s.toolchain e.args
    rw [hcommand]
    exact Shows.attempts_eq (forwardBy_shows_of_error _ hcommand)
  | ok selector =>
    have hcommand := Entry.command_of_selector hselector s.toolchain e.args
    have ran : (s.run (s.toolchain :: (selector ++ e.args)) env false).Shows Event.isAction _ _ :=
      ⟨rfl, rfl⟩
    have forwarded :=
      forwardBy_shows (fun command => s.run command env false) (fun _ => rfl) hcommand ran
    rw [hcommand, forwarded.attempts_eq, ← ran.attempts_eq, attempts_run]

end Attempts

section Alongside

variable (s : Workshop) (e : Entry) (env : Environment)

/-- Two ways to run the command of an operation that go alongside each other make two operations
that do, in any two workshops with one toolchain and one logger. -/
theorem forwardBy_alongside {s t : Workshop} (htoolchain : s.toolchain = t.toolchain)
    (hlogger : s.runner.logger = t.runner.logger) {keep : Event → Bool} {R : Event → Event → Prop}
    (hR : ∀ r, R (.logged r) (.logged r)) {run run' : List Text → Run Int}
    (hrun : ∀ command, (run command).Alongside keep R (· = ·) (run' command)) :
    (s.forwardBy e run).Alongside keep R (· = ·) (t.forwardBy e run') := by
  unfold forwardBy judge
  rw [htoolchain, hlogger]
  refine (alongside_self (every_ofResult _)).bind fun command _ heq => ?_
  obtain rfl := heq
  refine (alongside_say hR ..).bind fun _ _ _ => ?_
  refine (hrun command).bind fun status _ heq => ?_
  obtain rfl := heq
  refine Alongside.bind (P := fun _ _ => True) ?_ fun _ _ _ => alongside_pure rfl
  split
  · exact (alongside_say hR ..).mono fun _ _ _ => trivial
  · exact alongside_pure trivial

/-- An operation goes alongside another if its command does, with any tag and without one. -/
theorem forward_alongside {s t : Workshop} (htoolchain : s.toolchain = t.toolchain)
    (hlogger : s.runner.logger = t.runner.logger) {keep : Event → Bool} {R : Event → Event → Prop}
    (hR : ∀ r, R (.logged r) (.logged r)) {env env' : Environment}
    (hplain : ∀ command,
      (s.run command env false).Alongside keep R (· = ·) (t.run command env' false))
    (htagged : ∀ tag command,
      (s.runTagged tag command env).Alongside keep R (· = ·) (t.runTagged tag command env')) :
    (s.forward e env).Alongside keep R (· = ·) (t.forward e env') := by
  cases hnone : e.outputFilter.isNothing with
  | true =>
    rw [forward_of_plain hnone, forward_of_plain hnone]
    exact forwardBy_alongside e htoolchain hlogger hR hplain
  | false =>
    by_cases htext : ∀ tag, e.outputFilter.view ≠ .str tag
    · rw [forward_of_noText hnone htext, forward_of_noText hnone htext]
      exact forwardBy_alongside e htoolchain hlogger hR fun _ => alongside_fail _
    · obtain ⟨tag, hview⟩ := not_forall_not.mp htext
      rw [forward_of_tag hnone hview, forward_of_tag hnone hview]
      exact forwardBy_alongside e htoolchain hlogger hR (htagged tag)

theorem run_alongside_runTagged {tag : Text} {f : LineFilter} (hf : LineFilter.forTag tag = .ok f)
    (command : List Text) :
    (s.run command env false).Alongside Event.isNoted (fun ev ev' => ev.piped = ev') (· = ·)
      (s.runTagged tag command env) := by
  have streamed := Runner.run_alongside_streamBy s.runner s.world command env (some s.rootDir)
    (fun f line => f.feed (.octets line)) f
  rw [← Runner.stream_eq_streamBy] at streamed
  unfold runTagged
  rw [hf]
  refine Alongside.after_right ?_ (shows_ofResult _)
  refine streamed.before_right fun status found heq => ⟨found.1, ?_, heq⟩
  exact Shows.after (shows_pure _) (shows_debug rfl _)

theorem forwardBy_shows_of_unencodable {tag : Text} {cause : Utf8.Unencodable}
    (hcause : LineFilter.forTag tag = .error cause) :
    (s.forwardBy e fun command => s.runTagged tag command env).Shows Event.isAction []
      ((e.command s.toolchain e.args).bind fun _ => .error (.unencodable cause)) := by
  cases hcommand : e.command s.toolchain e.args with
  | error failure => exact forwardBy_shows_of_error _ hcommand
  | ok command =>
    exact forwardBy_shows _ (fun _ => rfl) hcommand (runTagged_shows_of_unencodable hcause command)

end Alongside

variable {plain filter : Value} {tag : Text}

/-- What a tag changes about an operation, and what no predicate on lines changes about a
command. -/
theorem filter_reroutes (hplain : plain.isNothing = true) (hview : filter.view = .str tag)
    (htag : tag ≠ []) (s : Workshop) (e : Entry) (env : Environment) :
    let direct := s.execute (.forward { e with outputFilter := plain }) env
    let filtered := s.execute (.forward { e with outputFilter := filter }) env
    (∀ f, LineFilter.forTag tag = .ok f → Reroutes id direct filtered) ∧
    (∀ cause, LineFilter.forTag tag = .error cause →
      filtered.events.attempts = [] ∧
      filtered.result = (e.command s.toolchain e.args).bind fun _ => .error (.unencodable cause)) ∧
    direct.events.attempts = s.plainAttempts e env ∧
    ∀ (r : Runner) (w : World) (command : List Text) (given : Environment) (d : Option Text),
      (∀ f, Reroutes Prod.fst (r.run w command given d false) (r.stream w command given d f)) ∧
      ∀ {σ : Type} (keep : σ → Octets → Bool × σ) (m : σ),
        Reroutes Prod.fst (r.run w command given d false)
          (r.streamBy w command given d keep m) := by
  intro direct filtered
  have hfilter : filter.isNothing = false := by
    unfold Value.isNothing
    rw [hview]
    simpa [Shape.isNothing] using htag
  have hdirect : direct = s.forwardBy e fun command => s.run command env false :=
    forward_of_plain (e := { e with outputFilter := plain }) hplain
  have hfiltered : filtered = s.forwardBy e fun command => s.runTagged tag command env :=
    forward_of_tag (e := { e with outputFilter := filter }) hfilter hview
  refine ⟨fun f hf => ?_, fun cause hcause => ?_, ?_, fun r w command given d => ⟨fun f => ?_, ?_⟩⟩
  · rw [hdirect, hfiltered]
    have alongside := forwardBy_alongside (s := s) (t := s) (R := fun ev ev' => ev.piped = ev') e
      rfl rfl (fun _ => rfl) (s.run_alongside_runTagged env hf)
    exact alongside.reroutes
  · have refused := s.forwardBy_shows_of_unencodable e env hcause
    rw [hfiltered]
    exact ⟨refused.attempts_eq, refused.result⟩
  · exact attempts_forward_of_plain (e := { e with outputFilter := plain }) hplain
  · rw [Runner.stream_eq_streamBy]
    exact Runner.run_reroutes_streamBy ..
  · intro σ keep m
    exact Runner.run_reroutes_streamBy ..

/-- A build with a tag for notes, on a machine where it is killed. -/
theorem taggedBuild_reroutes : ∃ config e, ConfigFiles.small.load "etc" = .ok config ∧
    config.catalogue.find? "build" = some e ∧ Value.null.isNothing = true ∧
    (Value.ofTree (.str "note")).view = .str "note" ∧ ("note" : Text) ≠ [] ∧
    let direct := auditShop.execute (.forward { e with outputFilter := .null }) .empty
    let filtered :=
      auditShop.execute (.forward { e with outputFilter := .ofTree (.str "note") }) .empty
    Reroutes id direct filtered ∧ direct.result = .ok (-9) ∧
      direct.events.attempts = [⟨["cargo", "build"], some "/work", .empty, .inherited⟩] := by
  have hview : (Value.ofTree (.str "note")).view = .str "note" := rfl
  have htag : ("note" : Text) ≠ [] := by decide
  refine ⟨_, _, rfl, rfl, rfl, hview, htag, ?_, rfl, rfl⟩
  have rerouted := @filter_reroutes .null _ _ rfl hview htag auditShop
  exact (rerouted _ _).1 ⟨"note", 0⟩ rfl

end Workshop

/-! ### Texts that are none -/

/-- A forward operation with a surrogate for a tag. -/
def surrogateTag : ConfigFiles := .withEntry "t"
  [(.str "kind", .str "forward"), (.str "args", .list [.str "check"]),
    (.str "output_filter", .str loneSurrogate)]

def longChannel : ConfigFiles := .withEntry "t"
  [(.str "kind", .str "forward"), (.str "args", .list [.str "check"]),
    (.str "channel", .int manyDigits)]

/-- With the surrogate for a tag nothing is attempted, and there is another result. With the long
number for a channel nothing is attempted either, though there is a directory to run in. -/
theorem surrogateTag_refused :
    (∃ config e tag, surrogateTag.load "etc" = .ok config ∧
      config.catalogue.find? "t" = some e ∧ e.kind = .forward ∧
      e.outputFilter.view = .str tag ∧ tag ≠ [] ∧
      let direct := auditShop.execute (.forward { e with outputFilter := .null }) .empty
      let filtered := auditShop.execute (.forward e) .empty
      filtered.result ≠ direct.result ∧ direct.events.attempts.length = 1 ∧
        filtered.events.attempts.length = 0) ∧
    ∃ config e, longChannel.load "etc" = .ok config ∧ config.catalogue.find? "t" = some e ∧
      e.kind = .forward ∧ auditShop.runner.dryRun = false ∧
      auditShop.world.isDirectory (Path.ofText auditShop.rootDir).text = true ∧
      (auditShop.execute (.forward e) .empty).events.attempts = [] := by
  constructor
  · refine ⟨_, _, _, rfl, rfl, rfl, rfl, by decide, ?_, rfl, rfl⟩
    intro h
    cases h
  · obtain ⟨config, e, hload, hfound, hkind, hplain, hlook⟩ : ∃ config e,
        longChannel.load "etc" = .ok config ∧ config.catalogue.find? "t" = some e ∧
        e.kind = .forward ∧ e.outputFilter.isNothing = true ∧
        e.channel.heap.look e.channel.place = .int manyDigits := ⟨_, _, rfl, rfl, rfl, rfl, rfl⟩
    have hselector := Entry.selector_of_manyDigits hlook le_natAbs_manyDigits
    refine ⟨config, e, hload, hfound, hkind, rfl, rfl, ?_⟩
    rw [Workshop.execute, Workshop.attempts_forward_of_plain hplain, Workshop.plainAttempts,
      Entry.command_of_selector_error hselector]

end BuildDispatch
