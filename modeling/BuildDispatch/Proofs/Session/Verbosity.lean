import BuildDispatch.Proofs.Operation.Verbosity
import BuildDispatch.Proofs.Session.Steps

/-!
# Verbosity

Verbosity is observation only. Two sessions that differ in it alone take every step alike: they ask
the world the same, start the same commands in the same environments, write the same and end the
same. The only difference is in the records, of which the session that is not verbose has those from
information on.

The invariant is that the two sessions stay one session made verbose and made not verbose.

## Main statements

* `Session.step_hushed`, `Session.steps_hushed`: one step, and any number of them.
* `Configuration.gather_verbose`: the flag decides about nothing else.
* `verbosity_is_observation`: what all of this comes to.
-/

namespace BuildDispatch

open Run

def Invocation.withVerbose (i : Invocation) (verbose : Bool) : Invocation := { i with verbose }

/-- The setup with its logger made verbose, or not. -/
def Setup.withVerbose (c : Setup) (verbose : Bool) : Setup :=
  { c with logger := c.logger.withVerbose verbose }

/-- The session with its invocation made verbose, or not. -/
def Session.withVerbose (s : Session) (verbose : Bool) : Session :=
  { s with invocation := s.invocation.withVerbose verbose }

/-! Verbosity is no part of what operations are made of. -/

theorem Setup.catalogue_withVerbose (c : Setup) (verbose : Bool) :
    (c.withVerbose verbose).catalogue = c.catalogue := rfl

theorem Session.instances_withVerbose (s : Session) (verbose : Bool) :
    (s.withVerbose verbose).instances = s.instances := rfl

theorem Session.resolution_withVerbose (s : Session) (verbose : Bool) :
    (s.withVerbose verbose).resolution = s.resolution := rfl

theorem Session.handedOut_withVerbose (s : Session) (verbose : Bool) :
    (s.withVerbose verbose).handedOut = s.handedOut := rfl

/-- The second run is the first one hushed, and the sessions are one in two verbosities. -/
structure Progress.Hushed {α : Type} (p q : Progress α) : Prop where
  run : p.run.Hushed q.run
  session : ∃ s : Session, p.session = s.withVerbose true ∧ q.session = s.withVerbose false

theorem Progress.Hushed.map {α β : Type} {p q : Progress α} (h : p.Hushed q) (f : α → β) :
    (Session.Progress.map f p).Hushed (Session.Progress.map f q) :=
  ⟨h.run.bind fun _ => hushed_pure _, h.session⟩

namespace Session

variable (c : Setup) (s : Session)

theorem still_hushed {α : Type} (result : Except Failure α) :
    ((s.withVerbose true).still result).Hushed ((s.withVerbose false).still result) :=
  ⟨⟨rfl, rfl⟩, s, rfl, rfl⟩

/-- Operations are made ready without regard to verbosity. -/
theorem obtain_withVerbose (verbose : Bool) (name : Text) :
    (s.withVerbose verbose).obtain (c.withVerbose verbose) name =
      ((s.obtain c name).1, (s.obtain c name).2.withVerbose verbose) := by
  unfold obtain
  rw [Setup.catalogue_withVerbose, instances_withVerbose]
  cases c.catalogue.find? name with
  | none => rfl
  | some e =>
    dsimp only
    cases s.instances.find? e.name with
    | some i => rfl
    | none =>
      dsimp only
      cases Operation.ofEntry e <;> rfl

theorem resolveLibrary_hushed :
    ((s.withVerbose true).resolveLibrary (c.withVerbose true)).Hushed
      ((s.withVerbose false).resolveLibrary (c.withVerbose false)) := by
  unfold resolveLibrary
  dsimp only
  rw [LibrarySettings.resolve_result, LibrarySettings.resolve_result]
  exact ⟨s.invocation.library.resolve_hushed c.logger s.world s.invocation.useSystemLibrary,
    { s with resolution := some _ }, rfl, rfl⟩

theorem environmentFor_hushed (o : Operation) (given : Option Resolution) :
    ((s.withVerbose true).environmentFor (c.withVerbose true) o given).Hushed
      ((s.withVerbose false).environmentFor (c.withVerbose false) o given) := by
  unfold environmentFor
  split
  · cases given with
    | some r => exact s.still_hushed _
    | none =>
      have looked := s.resolveLibrary_hushed c
      exact ⟨looked.run.bind fun _ => hushed_pure _, looked.session⟩
  · exact s.still_hushed _

theorem announceLibrary_hushed :
    ((s.withVerbose true).announceLibrary (c.withVerbose true)).Hushed
      ((s.withVerbose false).announceLibrary (c.withVerbose false)) := by
  unfold announceLibrary
  rw [resolution_withVerbose, resolution_withVerbose]
  cases s.resolution with
  | none => exact hushed_pure _
  | some r => exact hushed_say c.logger .debug _ _

theorem perform_hushed (o : Operation) :
    ((s.withVerbose true).perform (c.withVerbose true) o).Hushed
      ((s.withVerbose false).perform (c.withVerbose false) o) := by
  have hforgotten (verbose : Bool) : { s.withVerbose verbose with resolution := none } =
      withVerbose { s with resolution := none } verbose := rfl
  obtain ⟨hrun, t, hloud, hquiet⟩ := environmentFor_hushed c { s with resolution := none } o none
  rw [perform, perform, hforgotten, hforgotten]
  refine ⟨hrun.bind fun env => ?_, t, hloud, hquiet⟩
  rw [hloud, hquiet]
  exact (t.announceLibrary_hushed c).bind fun _ => (t.workshop c).execute_hushed env o

/-- Both sessions come to the same operation, or to none. -/
theorem obtain_both (name : Text) {result : Except Failure Instance} {t : Session}
    (h : s.obtain c name = (result, t)) (verbose : Bool) :
    (s.withVerbose verbose).obtain (c.withVerbose verbose) name =
      (result, t.withVerbose verbose) := by
  rw [obtain_withVerbose, h]

theorem dispatch_hushed (name : Text) :
    ((s.withVerbose true).dispatch (c.withVerbose true) name).Hushed
      ((s.withVerbose false).dispatch (c.withVerbose false) name) := by
  obtain ⟨result, t, hobtain⟩ : ∃ result t, s.obtain c name = (result, t) := ⟨_, _, rfl⟩
  have both := obtain_both c s name hobtain
  cases result with
  | error failure =>
    rw [dispatch_of_error (both true), dispatch_of_error (both false)]
    exact t.still_hushed _
  | ok inst =>
    rw [dispatch_of_ok (both true), dispatch_of_ok (both false)]
    exact t.perform_hushed c inst.operation

theorem withOperation_hushed (name : Text) {f f' : Session → Instance → Progress Answer}
    (hf : ∀ (t : Session) inst, (f (t.withVerbose true) inst).Hushed
      (f' (t.withVerbose false) inst)) :
    ((s.withVerbose true).withOperation (c.withVerbose true) name f).Hushed
      ((s.withVerbose false).withOperation (c.withVerbose false) name f') := by
  obtain ⟨result, t, hobtain⟩ : ∃ result t, s.obtain c name = (result, t) := ⟨_, _, rfl⟩
  have both := obtain_both c s name hobtain
  cases result with
  | error failure =>
    rw [withOperation_of_error (both true), withOperation_of_error (both false)]
    exact t.still_hushed _
  | ok inst =>
    rw [withOperation_of_ok (both true), withOperation_of_ok (both false)]
    exact hf t inst

theorem handOut_hushed (inst : Instance) :
    ((s.withVerbose true).handOut inst).Hushed ((s.withVerbose false).handOut inst) := by
  unfold handOut
  rw [handedOut_withVerbose, handedOut_withVerbose]
  cases s.handedOut.findIdx? (· == inst.serial) with
  | some n => exact s.still_hushed _
  | none => exact still_hushed { s with handedOut := s.handedOut ++ [inst.serial] } _

theorem availability_hushed (o : Operation) (env : Environment) :
    ((s.withVerbose true).availability (c.withVerbose true) o env).Hushed
      ((s.withVerbose false).availability (c.withVerbose false) o env) := by
  cases o with
  | helper e tool =>
    exact ((s.workshop c).isAvailable_hushed e tool env).bind fun _ => hushed_pure _
  | forward e => exact hushed_self (every_fail _)
  | info e => exact hushed_self (every_fail _)

/-- Every step is taken by both sessions alike, but for what is not heard. -/
theorem step_hushed (st : Step) :
    ((s.withVerbose true).step (c.withVerbose true) st).Hushed
      ((s.withVerbose false).step (c.withVerbose false) st) := by
  cases st with
  | setWorld w => exact still_hushed { s with world := w } _
  | dispatch name => exact (s.dispatch_hushed c name).map _
  | resolveLibrary => exact (s.resolveLibrary_hushed c).map _
  | names => exact s.still_hushed _
  | has name => exact s.still_hushed _
  | describe => exact s.still_hushed _
  | list =>
    refine ⟨Hushed.bind (hushed_self ?_) fun _ => hushed_pure _, s, rfl, rfl⟩
    exact Sink.writeAll_every (fun _ => rfl) _ _
  | setVariable key value => exact still_hushed (s.setVariable key value) _
  | setEnvironment env => exact still_hushed (s.setEnvironment env) _
  | baseEnvironment => exact s.still_hushed _
  | setUseSystem useSystem => exact still_hushed (s.setUseSystem useSystem) _
  | get name => exact s.withOperation_hushed c name handOut_hushed
  | environmentFor name given =>
    exact s.withOperation_hushed c name fun t inst =>
      (t.environmentFor_hushed c inst.operation given).map _
  | command name args => exact s.withOperation_hushed c name fun t inst => t.still_hushed _
  | isAvailable name env =>
    exact s.withOperation_hushed c name fun t inst =>
      ⟨t.availability_hushed c inst.operation env, t, rfl, rfl⟩
  | execute name env =>
    exact s.withOperation_hushed c name fun t inst =>
      ⟨((t.workshop c).execute_hushed env inst.operation).bind fun _ => hushed_pure _, t, rfl, rfl⟩

/-- So are all steps of a session. -/
theorem steps_hushed (history : List Step) :
    List.Forall₂ Progress.Hushed ((s.withVerbose true).steps (c.withVerbose true) history)
      ((s.withVerbose false).steps (c.withVerbose false) history) := by
  induction history generalizing s with
  | nil => exact .nil
  | cons st rest ih =>
    have hstep := s.step_hushed c st
    -- Both sessions go on as one session `t` in two verbosities, so the hypothesis is for `t`.
    obtain ⟨t, hloud, hquiet⟩ := hstep.session
    refine .cons hstep ?_
    rw [hloud, hquiet]
    exact ih t

end Session

/-- The flag decides about verbosity and nothing else. -/
theorem Configuration.gather_verbose (config : Configuration) (env : Environment) (flags : Flags)
    (current : Path) :
    config.gather env { flags with verbose := true } current =
      (config.gather env { flags with verbose := false } current).map (·.withVerbose true) := by
  unfold gather
  cases config.toolchainFor env with
  | error failure => rfl
  | ok toolchain =>
    change config.verboseFor env >>= _ = (config.verboseFor env >>= _).map _
    cases config.verboseFor env <;> rfl

/-- A step `p` of a verbose session, and `q` of one that is not. -/
structure Session.Overheard (p q : Progress Answer) : Prop where
  /-- The answer, or the failure. -/
  result : q.run.result = p.run.result
  /-- The commands that were attempted, with their environments. -/
  attempts : q.run.events.attempts = p.run.events.attempts
  queries : q.run.events.queries = p.run.events.queries
  provisions : q.run.events.provisions = p.run.events.provisions
  output : q.run.events.output = p.run.events.output
  resolution : q.session.resolution = p.session.resolution
  records : q.run.events.records =
    p.run.events.records.filter fun r => Log.Level.info ≤ r.level
  /-- Nothing else is different, event by event, and the session goes on the same. -/
  events : q.run.events = p.run.events.filter Event.isHeard
  session : q.session = p.session.withVerbose false

theorem Progress.Hushed.overheard {p q : Progress Session.Answer} (h : p.Hushed q) :
    Session.Overheard p q := by
  obtain ⟨⟨hevents, hresult⟩, s, hloud, hquiet⟩ := h
  exact {
    result := hresult
    attempts := hevents ▸ Trace.filterMap_filter_isHeard (fun _ => rfl) _
    queries := hevents ▸ Trace.filterMap_filter_isHeard (fun _ => rfl) _
    provisions := hevents ▸ Trace.filterMap_filter_isHeard (fun _ => rfl) _
    output := hevents ▸ Trace.output_filter_isHeard _
    resolution := by rw [hloud, hquiet]; rfl
    records := hevents ▸ Trace.records_filter_isHeard _
    events := hevents
    session := by rw [hloud, hquiet]; rfl }

/-- Whatever the records of single steps are filtered by, all records together are. -/
theorem records_of_overheard {loud quiet : List (Progress Session.Answer)}
    (h : List.Forall₂ Session.Overheard loud quiet) :
    quiet.flatMap (fun q => q.run.events.records) =
      (loud.flatMap fun p => p.run.events.records).filter fun r => Log.Level.info ≤ r.level := by
  induction h with
  | nil => rfl
  | cons hstep _ ih =>
    rw [List.flatMap_cons, List.flatMap_cons, List.filter_append, hstep.records, ih]

/-- Verbosity is observation only. For every configuration and environment the flag gathers the same
but for itself, and with whatever is gathered any steps come to the same, step by step, whether the
session and its logger are verbose or not. The records of the session that is not verbose are those
of the other from information on. -/
theorem verbosity_is_observation (config : Configuration) (env : Environment) (flags : Flags)
    (current : Path) :
    config.gather env { flags with verbose := true } current =
        (config.gather env { flags with verbose := false } current).map (·.withVerbose true) ∧
      ∀ (c : Setup) (i : Invocation) (w : World) (history : List Session.Step),
        let taken (verbose : Bool) :=
          ({ world := w, invocation := i.withVerbose verbose } : Session).steps
            (c.withVerbose verbose) history
        List.Forall₂ Session.Overheard (taken true) (taken false) ∧
          (taken false).flatMap (fun q => q.run.events.records) =
            ((taken true).flatMap fun p => p.run.events.records).filter
              fun r => Log.Level.info ≤ r.level := by
  refine ⟨config.gather_verbose env flags current, fun c i w history => ?_⟩
  have hushed := Session.steps_hushed c { world := w, invocation := i } history
  have overheard := hushed.imp fun _ _ h => h.overheard
  exact ⟨overheard, records_of_overheard overheard⟩

end BuildDispatch
