import BuildDispatch.Proofs.Library.Lookup
import BuildDispatch.Proofs.Operation.Routing
import BuildDispatch.Proofs.Run.Hushed

/-!
# Lookups and operations, hushed

A lookup of the library, a command and an operation do the same under a logger that is verbose and
under one that is not, but for the records that the second does not keep.

## Main statements

* `LibrarySettings.resolve_hushed`: a lookup, whose records have a source of their own.
* `Runner.run_hushed`, `Runner.stream_hushed`: a command.
* `Workshop.execute_hushed`: any operation.
-/

namespace BuildDispatch

open Run

theorem LibrarySettings.resolve_hushed (s : LibrarySettings) (l : Log.Logger) (w : World)
    (useSystem : Bool) :
    (s.resolve (l.withVerbose true) w useSystem).Hushed
      (s.resolve (l.withVerbose false) w useSystem) := by
  unfold resolve
  split
  · exact (hushed_say ..).bind fun _ => hushed_pure _
  · have hfound : (findLibraryDir w s.filename s.candidateDirs).Every fun ev => ev.isHeard = true :=
      findLibraryDir_every (fun _ => rfl) _ _ _
    refine (hushed_self hfound).bind fun found => ?_
    cases found with
    | none => exact (hushed_say ..).bind fun _ => hushed_pure _
    | some d => exact (hushed_say ..).bind fun _ => hushed_pure _

/-! ### Commands -/

namespace Runner

/-- The runner with its logger made verbose, or not. -/
def withVerbose (r : Runner) (verbose : Bool) : Runner :=
  { r with logger := r.logger.withVerbose verbose }

variable (r : Runner) (w : World) (command : List Text) (env : Environment) (d : Option Text)

theorem announce_hushed :
    ((r.withVerbose true).announce command).Hushed ((r.withVerbose false).announce command) :=
  hushed_say r.logger .info _ _

theorem reportMissing_hushed :
    ((r.withVerbose true).reportMissing command).Hushed
      ((r.withVerbose false).reportMissing command) := by
  cases command with
  | nil => exact hushed_self (every_fail _)
  | cons => exact hushed_say r.logger .error _ _

/-- What is announced or attempted, and what comes of it. -/
theorem attempted_hushed {α : Type} {announced announced' : Run α}
    {go go' : Option (Int × Octets) → Run α} (hannounced : announced.Hushed announced')
    (hgo : ∀ found, (go found).Hushed (go' found)) (routing : Routing) :
    (if r.dryRun then announced else do
        checkDirectory w d
        let found ← attempt w ⟨command, d, env, routing⟩
        go found).Hushed
      (if r.dryRun then announced' else do
        checkDirectory w d
        let found ← attempt w ⟨command, d, env, routing⟩
        go' found) := by
  split
  · exact hannounced
  · refine (hushed_self (checkDirectory_every w d)).bind fun _ => ?_
    exact (hushed_self (attempt_every w rfl)).bind hgo

theorem run_hushed (quiet : Bool) :
    ((r.withVerbose true).run w command env d quiet).Hushed
      ((r.withVerbose false).run w command env d quiet) := by
  refine (hushed_say ..).bind fun _ => ?_
  extract_lets -underBinder rest rest'
  have hrest : (rest ()).Hushed (rest' ()) := by
    refine attempted_hushed r w command env d ?_ (fun found => ?_) _
    · exact (r.announce_hushed command).bind fun _ => hushed_pure _
    · cases found with
      | some found => exact hushed_pure _
      | none =>
        dsimp only
        split
        · exact (r.reportMissing_hushed command).bind fun _ => hushed_pure _
        · exact hushed_pure _
  cases d with
  | none => exact hrest
  | some d => exact (hushed_say ..).bind fun _ => hrest

theorem stream_hushed (filter : LineFilter) :
    ((r.withVerbose true).stream w command env d filter).Hushed
      ((r.withVerbose false).stream w command env d filter) := by
  refine (hushed_say ..).bind fun _ => ?_
  refine attempted_hushed r w command env d ?_ (fun found => ?_) .piped
  · exact (r.announce_hushed command).bind fun _ => hushed_pure _
  · cases found with
    | some found =>
      refine Hushed.bind (hushed_self (every_emitAll ?_)) fun _ => hushed_pure _
      exact filterLines_every (fun _ => rfl) _ _ _
    | none => exact (r.reportMissing_hushed command).bind fun _ => hushed_pure _

end Runner

/-! ### Operations -/

namespace Workshop

/-- The workshop with its logger made verbose, or not. -/
def withVerbose (s : Workshop) (verbose : Bool) : Workshop :=
  { s with runner := s.runner.withVerbose verbose }

variable (s : Workshop) (e : Entry) (tool : HelperTool) (env : Environment)

theorem run_hushed (command : List Text) (quiet : Bool) :
    ((s.withVerbose true).run command env quiet).Hushed
      ((s.withVerbose false).run command env quiet) :=
  Runner.run_hushed ..

theorem judge_hushed (name : Text) (status : Int) :
    ((s.withVerbose true).judge name status).Hushed ((s.withVerbose false).judge name status) := by
  unfold judge
  split
  · exact hushed_say ..
  · exact hushed_pure ()

theorem runTagged_hushed (tag : Text) (command : List Text) :
    ((s.withVerbose true).runTagged tag command env).Hushed
      ((s.withVerbose false).runTagged tag command env) := by
  refine (hushed_self (every_ofResult _)).bind fun filter => ?_
  refine (s.runner.stream_hushed s.world command env _ filter).bind fun found => ?_
  exact (hushed_say ..).bind fun _ => hushed_pure _

theorem forwardBy_hushed {run run' : List Text → Run Int}
    (hrun : ∀ command, (run command).Hushed (run' command)) :
    ((s.withVerbose true).forwardBy e run).Hushed ((s.withVerbose false).forwardBy e run') := by
  refine (hushed_self (every_ofResult _)).bind fun command => ?_
  refine (hushed_say ..).bind fun _ => ?_
  refine (hrun command).bind fun status => ?_
  exact (s.judge_hushed e.name status).bind fun _ => hushed_pure _

/-- A filter counts the lines that it drops, and only verbose loggers tell. -/
theorem forward_hushed :
    ((s.withVerbose true).forward e env).Hushed ((s.withVerbose false).forward e env) := by
  cases hnone : e.outputFilter.isNothing with
  | true =>
    rw [forward_of_plain hnone, forward_of_plain hnone]
    exact s.forwardBy_hushed e fun command => s.run_hushed env command false
  | false =>
    by_cases hview : ∃ tag, e.outputFilter.view = .str tag
    · obtain ⟨tag, htag⟩ := hview
      rw [forward_of_tag hnone htag, forward_of_tag hnone htag]
      exact s.forwardBy_hushed e (s.runTagged_hushed env tag)
    · have hother : ∀ tag, e.outputFilter.view ≠ .str tag := fun tag h => hview ⟨tag, h⟩
      rw [forward_of_noText hnone hother, forward_of_noText hnone hother]
      exact s.forwardBy_hushed e fun _ => hushed_self (every_fail _)

theorem isAvailable_hushed :
    ((s.withVerbose true).isAvailable e tool env).Hushed
      ((s.withVerbose false).isAvailable e tool env) := by
  refine (hushed_self (every_ofResult _)).bind fun command => ?_
  refine (hushed_say ..).bind fun _ => ?_
  exact (s.run_hushed env command true).bind fun _ => hushed_pure _

theorem install_hushed :
    ((s.withVerbose true).install tool env).Hushed ((s.withVerbose false).install tool env) := by
  refine (hushed_say ..).bind fun _ => ?_
  refine (s.run_hushed env _ false).bind fun status => ?_
  split
  · exact (hushed_say ..).bind fun _ => hushed_pure _
  · exact (hushed_say ..).bind fun _ => hushed_pure _

theorem provision_hushed :
    ((s.withVerbose true).provision tool env).Hushed
      ((s.withVerbose false).provision tool env) := by
  unfold provision
  cases hprovisioner : s.provisioner with
  | toolchain => simpa [withVerbose, hprovisioner] using s.install_hushed tool env
  | asking install =>
    simp only [withVerbose, hprovisioner]
    exact (hushed_self (every_emit rfl)).bind fun _ => hushed_self (every_ofResult _)

theorem ensure_hushed :
    ((s.withVerbose true).ensure e tool env).Hushed ((s.withVerbose false).ensure e tool env) := by
  refine (s.isAvailable_hushed e tool env).bind fun found => ?_
  split
  · exact (hushed_say ..).bind fun _ => hushed_pure _
  · exact (hushed_say ..).bind fun _ => s.provision_hushed tool env

theorem helper_hushed :
    ((s.withVerbose true).helper e tool env).Hushed ((s.withVerbose false).helper e tool env) := by
  refine (s.ensure_hushed e tool env).bind fun ready => ?_
  split
  · exact hushed_pure _
  · exact s.forwardBy_hushed e fun command => s.run_hushed env command false

/-- Reports are not logged at all. -/
theorem info_hushed :
    ((s.withVerbose true).info env).Hushed ((s.withVerbose false).info env) := by
  have hlines : (s.withVerbose true).infoLines env = (s.withVerbose false).infoLines env := rfl
  refine Hushed.bind ?_ fun _ => hushed_pure _
  rw [hlines]
  exact hushed_self (Sink.writeAll_every (fun _ => rfl) _ _)

theorem execute_hushed (o : Operation) :
    ((s.withVerbose true).execute o env).Hushed ((s.withVerbose false).execute o env) := by
  cases o with
  | forward e => exact s.forward_hushed e env
  | helper e tool => exact s.helper_hushed e tool env
  | info e => exact s.info_hushed env

end Workshop
end BuildDispatch
