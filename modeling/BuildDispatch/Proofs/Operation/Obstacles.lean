import BuildDispatch.Proofs.Operation.Routing
import BuildDispatch.Proofs.Session.Linkage

/-!
# Obstacles and excuses

A channel and a tag are taken over from the operations file as they are, so an accepted entry may
hold values that its operation cannot use. Such an entry has an `Obstacle`, and its operation fails
with it before anything is attempted, whatever the world is like. Without an obstacle an operation
fails only for an `Excuse`: the directory is not there, the toolchain may not or cannot be run, the
user interrupts, or whoever installs tools fails.

## Main statements

* `Workshop.execute_of_obstacle`: an obstacle decides how an operation fails.
* `Workshop.execute_failsOnly`: without one, all failures have an excuse.
* `Workshop.obstacle_or_excuse_of_error`: both, read off a failure.
* `dispatch_fails`: both for every dispatch of every session.
* `numberTag_fails`: an accepted entry with an obstacle.
-/

namespace BuildDispatch

open Run

/-! ### Failures of a run -/

namespace Run

variable {α β : Type} {P : Failure → Prop}

/-- If the run fails, then with a failure as `P` says. -/
def FailsOnly (P : Failure → Prop) (r : Run α) : Prop :=
  ∀ failure, r.result = .error failure → P failure

theorem failsOnly_of_ok {r : Run α} {a : α} (h : r.result = .ok a) : r.FailsOnly P := by
  intro failure hfailure
  cases h.symm.trans hfailure

theorem failsOnly_pure (a : α) : (pure a : Run α).FailsOnly P := failsOnly_of_ok rfl

theorem failsOnly_fail {failure : Failure} (h : P failure) :
    (fail failure : Run α).FailsOnly P := by
  intro _ hfailure
  obtain rfl := Except.error.inj hfailure
  exact h

theorem FailsOnly.bind {r : Run α} {f : α → Run β} (hr : r.FailsOnly P)
    (hf : ∀ a, r.result = .ok a → (f a).FailsOnly P) : (r >>= f).FailsOnly P := by
  intro failure h
  cases hresult : r.result with
  | error e =>
    rw [bind_of_error hresult] at h
    obtain rfl := Except.error.inj h
    exact hr e hresult
  | ok a =>
    rw [bind_of_ok hresult] at h
    exact hf a hresult failure h

theorem failsOnly_say (l : Log.Logger) (level : Log.Level) (source message : Text) :
    (l.say level source message).FailsOnly P := failsOnly_of_ok (say_result ..)

end Run

/-! ### Obstacles -/

/-- Failures that come of a value or a text that cannot be used as it is. -/
def Failure.isRefusal : Failure → Bool
  | .unwritable _ | .noAttribute .. | .unencodable _ | .octetsOnly => true
  | _ => false

namespace Sink

variable (sink : Sink)

theorem isRefusal_of_refusal {t : Text} {failure : Failure} (h : sink.refusal t = some failure) :
    failure.isRefusal = true := by
  cases sink with
  | octets =>
    obtain rfl := Option.some.inj h
    rfl
  | textOverOctets =>
    obtain ⟨cause, -, rfl⟩ := Option.map_eq_some_iff.mp h
    rfl
  | text => cases h

theorem write_of_some {t : Text} {failure : Failure} (h : sink.refusal t = some failure) :
    sink.write t = .fail failure := by
  rw [write, h]

theorem write_of_none {t : Text} (h : sink.refusal t = none) :
    sink.write t = .emit (.wrote (Utf8.encode t)) := by
  rw [write, h]

/-- Octets beneath a text stream are all that it can refuse a text for. -/
theorem exists_cause_of_refusal {t : Text} {failure : Failure}
    (h : textOverOctets.refusal t = some failure) :
    ∃ cause, Utf8.unencodable? t = some cause ∧ failure = .unencodable cause := by
  obtain ⟨cause, hcause, rfl⟩ := Option.map_eq_some_iff.mp h
  exact ⟨cause, hcause, rfl⟩

theorem write_shows_of_some {t : Text} {failure : Failure} (h : sink.refusal t = some failure) :
    (sink.write t).Shows Event.isAction [] (.error failure) := by
  rw [sink.write_of_some h]
  exact shows_fail _

theorem write_shows_of_none {t : Text} (h : sink.refusal t = none) :
    (sink.write t).Shows Event.isAction [] (.ok ()) := by
  rw [sink.write_of_none h]
  exact ⟨rfl, rfl⟩

/-- The first text that cannot be written ends the writing. -/
theorem writeAll_shows_of_some {lines : List Text} {failure : Failure}
    (h : lines.findSome? sink.refusal = some failure) :
    (sink.writeAll lines).Shows Event.isAction [] (.error failure) := by
  induction lines with
  | nil => cases h
  | cons t rest ih =>
    rw [List.findSome?_cons] at h
    cases ht : sink.refusal t with
    | some first =>
      obtain rfl : first = failure := by simpa [ht] using h
      exact (sink.write_shows_of_some ht).bind_error
    | none =>
      rw [ht] at h
      exact Shows.after (ih h) (sink.write_shows_of_none ht)

theorem writeAll_shows_of_none {lines : List Text} (h : lines.findSome? sink.refusal = none) :
    (sink.writeAll lines).Shows Event.isAction [] (.ok ()) := by
  induction lines with
  | nil => exact shows_pure ()
  | cons t rest ih =>
    obtain ⟨ht, hrest⟩ : sink.refusal t = none ∧ rest.findSome? sink.refusal = none := by
      simpa using h
    exact Shows.after (ih hrest) (sink.write_shows_of_none ht)

end Sink

namespace Workshop

/-- What keeps the operation of an entry from being run at all, with the failure that it ends
with. -/
inductive Obstacle (s : Workshop) (e : Entry) (env : Environment) : Failure → Prop
  | channel {cause : Unwritable} (hkind : e.kind ≠ .info) (hselector : e.selector = .error cause) :
    Obstacle s e env (.unwritable cause)
  | filter {selector : List Text} (hkind : e.kind = .forward)
    (hselector : e.selector = .ok selector) (hsome : e.outputFilter.isNothing = false)
    (hview : ∀ tag, e.outputFilter.view ≠ .str tag) :
    Obstacle s e env (.noAttribute e.outputFilter.view.fullKindName "encode")
  | tag {selector : List Text} {tag : Text} {cause : Utf8.Unencodable} (hkind : e.kind = .forward)
    (hselector : e.selector = .ok selector) (hview : e.outputFilter.view = .str tag)
    (htag : LineFilter.forTag tag = .error cause) : Obstacle s e env (.unencodable cause)
  | report {failure : Failure} (hkind : e.kind = .info)
    (hline : (s.infoLines env).findSome? s.runner.sink.refusal = some failure) :
    Obstacle s e env failure

/-- What an operation may fail for that has no obstacle. -/
inductive Excuse (s : Workshop) (env : Environment) : Failure → Prop
  | directory (h : s.world.isDirectory (Path.ofText s.rootDir).text = false) :
    Excuse s env (.missingDirectory s.rootDir)
  | denied {args : List Text} (h : s.world.outcome (s.toolchain :: args) = .denied) :
    Excuse s env (.denied s.toolchain)
  | interrupted {args : List Text} (h : s.world.outcome (s.toolchain :: args) = .interrupted) :
    Excuse s env .interrupted
  | failed {args : List Text} {cause : Text}
    (h : s.world.outcome (s.toolchain :: args) = .failed cause) : Excuse s env (.system cause)
  | provisioner {install : HelperTool → Environment → Except Failure Int} {tool : HelperTool}
    {failure : Failure} (hasked : s.provisioner = .asking install)
    (h : install tool env = .error failure) : Excuse s env failure

section Obstacle

variable {s : Workshop} {e : Entry} {env : Environment} {o : Operation} {failure : Failure}

/-- Nothing that the world does is an obstacle. -/
theorem Obstacle.isRefusal (h : s.Obstacle e env failure) : failure.isRefusal = true := by
  cases h with
  | report _ hline =>
    obtain ⟨line, -, hrefusal⟩ := List.exists_of_findSome?_eq_some hline
    exact s.runner.sink.isRefusal_of_refusal hrefusal
  | _ => rfl

theorem eq_info_of_ofEntry (ho : Operation.ofEntry e = .ok o) (hkind : e.kind = .info) :
    o = .info e := by
  unfold Operation.ofEntry at ho
  rw [hkind] at ho
  exact (Except.ok.inj ho).symm

/-- The operation of an entry, by the kind of the entry. -/
theorem ofEntry_cases (ho : Operation.ofEntry e = .ok o) :
    (e.kind = .forward ∧ o = .forward e) ∨
      (∃ tool, e.kind = .helper ∧ e.helper = some tool ∧ o = .helper e tool) ∨
      (e.kind = .info ∧ o = .info e) := by
  by_cases hkind : e.kind = .info
  · exact .inr (.inr ⟨hkind, eq_info_of_ofEntry ho hkind⟩)
  · rcases operation_cases ho hkind with hforward | hhelper
    · exact .inl hforward
    · exact .inr (.inl hhelper)

/-- Only texts that are not empty can be without a form in UTF-8. -/
theorem isNothing_of_forTag_error {v : Value} {tag : Text} {cause : Utf8.Unencodable}
    (hview : v.view = .str tag) (htag : LineFilter.forTag tag = .error cause) :
    v.isNothing = false := by
  unfold Value.isNothing
  rw [hview]
  cases tag with
  | nil => cases htag
  | cons => rfl

theorem forward_of_obstacle {keep : Event → Bool} (hkeep : ∀ r, keep (.logged r) = false)
    (hkind : e.kind = .forward) (h : s.Obstacle e env failure) :
    (s.forward e env).Shows keep [] (.error failure) := by
  cases h with
  | channel _ hselector =>
    have hcommand := Entry.command_of_selector_error hselector s.toolchain e.args
    unfold forward
    rw [hcommand]
    exact (shows_ofResult _).bind_error
  | filter _ hselector hsome hview =>
    rw [forward_of_noText hsome hview]
    exact forwardBy_shows _ hkeep (Entry.command_of_selector hselector ..) (shows_fail _)
  | tag _ hselector hview htag =>
    rw [forward_of_tag (isNothing_of_forTag_error hview htag) hview]
    exact forwardBy_shows _ hkeep (Entry.command_of_selector hselector ..)
      (runTagged_shows_of_unencodable htag _)
  | report hinfo => simp [hkind] at hinfo

theorem helper_of_obstacle {keep : Event → Bool} (hkind : e.kind = .helper) (tool : HelperTool)
    (h : s.Obstacle e env failure) : (s.helper e tool env).Shows keep [] (.error failure) := by
  cases h with
  | channel _ hselector => exact s.helper_shows_of_unwritable hselector tool env
  | filter hforward => simp [hkind] at hforward
  | tag hforward => simp [hkind] at hforward
  | report hinfo => simp [hkind] at hinfo

theorem info_of_obstacle (hkind : e.kind = .info) (h : s.Obstacle e env failure) :
    (s.info env).Shows Event.isAction [] (.error failure) := by
  cases h with
  | channel hother => exact absurd hkind hother
  | filter hforward => simp [hkind] at hforward
  | tag hforward => simp [hkind] at hforward
  | report _ hline => exact (s.runner.sink.writeAll_shows_of_some hline).bind_error

/-- Nothing is attempted where there is an obstacle. -/
theorem execute_of_obstacle (ho : Operation.ofEntry e = .ok o) (h : s.Obstacle e env failure) :
    (s.execute o env).Shows Event.isAction [] (.error failure) := by
  rcases ofEntry_cases ho with ⟨hkind, rfl⟩ | ⟨tool, hkind, -, rfl⟩ | ⟨hkind, rfl⟩
  · exact forward_of_obstacle (fun _ => rfl) hkind h
  · exact helper_of_obstacle hkind tool h
  · exact info_of_obstacle hkind h

theorem exists_selector_of_clear (hkind : e.kind ≠ .info)
    (hclear : ∀ failure, ¬ s.Obstacle e env failure) : ∃ selector, e.selector = .ok selector := by
  cases hselector : e.selector with
  | error cause => exact absurd (.channel hkind hselector) (hclear _)
  | ok selector => exact ⟨selector, rfl⟩

theorem exists_filter_of_clear (hkind : e.kind = .forward) {selector : List Text}
    (hselector : e.selector = .ok selector) (hsome : e.outputFilter.isNothing = false)
    (hclear : ∀ failure, ¬ s.Obstacle e env failure) :
    ∃ tag f, e.outputFilter.view = .str tag ∧ LineFilter.forTag tag = .ok f := by
  by_cases htext : ∀ tag, e.outputFilter.view ≠ .str tag
  · exact absurd (.filter hkind hselector hsome htext) (hclear _)
  · obtain ⟨tag, hview⟩ := not_forall_not.mp htext
    cases hf : LineFilter.forTag tag with
    | error cause => exact absurd (.tag hkind hselector hview hf) (hclear _)
    | ok f => exact ⟨tag, f, hview, hf⟩

/-- Without an obstacle the command of a forward operation is run, or it is streamed through the
filter for its tag. -/
theorem forward_cases_of_clear (hkind : e.kind = .forward) {selector : List Text}
    (hselector : e.selector = .ok selector) (hclear : ∀ failure, ¬ s.Obstacle e env failure) :
    (s.forward e env = s.forwardBy e fun command => s.run command env false) ∨
      ∃ tag f, LineFilter.forTag tag = .ok f ∧
        s.forward e env = s.forwardBy e fun command => s.runTagged tag command env := by
  cases hsome : e.outputFilter.isNothing with
  | true => exact .inl (forward_of_plain hsome)
  | false =>
    obtain ⟨tag, f, hview, hf⟩ := exists_filter_of_clear hkind hselector hsome hclear
    exact .inr ⟨tag, f, hf, forward_of_tag hsome hview⟩

theorem info_shows_of_clear (hkind : e.kind = .info)
    (hclear : ∀ failure, ¬ s.Obstacle e env failure) :
    (s.info env).Shows Event.isAction [] (.ok 0) := by
  cases hline : (s.infoLines env).findSome? s.runner.sink.refusal with
  | some failure => exact absurd (.report hkind hline) (hclear _)
  | none => exact Shows.after (shows_pure _) (s.runner.sink.writeAll_shows_of_none hline)

end Obstacle

/-! ### Dry runs -/

section DryRun

variable {s : Workshop} {e : Entry} {env : Environment} (hdry : s.runner.dryRun = true)
  {selector : List Text} (hselector : e.selector = .ok selector)

include hdry hselector

/-- A check that is only announced finds the tool, so nobody is asked to install it. -/
theorem ensure_shows_of_dryRun (tool : HelperTool) :
    (s.ensure e tool env).Shows Event.isAction [] (.ok 0) := by
  have checked : (s.isAvailable e tool env).Shows Event.isAction [] (.ok true) := by
    unfold isAvailable
    rw [Entry.command_of_selector hselector]
    refine Shows.after ?_ (shows_ofResult _)
    refine Shows.after ?_ (say_shows ..)
    exact Shows.after (shows_pure _) (Runner.run_shows_of_dryRun hdry ..)
  refine Shows.after ?_ checked
  exact Shows.after (shows_pure _) (say_shows ..)

theorem forwardBy_shows_of_dryRun :
    (s.forwardBy e fun command => s.run command env false).Shows Event.isAction [] (.ok 0) :=
  forwardBy_shows _ (fun _ => rfl) (Entry.command_of_selector hselector ..)
    (Runner.run_shows_of_dryRun hdry ..)

theorem helper_shows_of_dryRun (tool : HelperTool) :
    (s.helper e tool env).Shows Event.isAction [] (.ok 0) := by
  refine Shows.after ?_ (ensure_shows_of_dryRun hdry hselector tool)
  rw [if_neg (by simp)]
  exact forwardBy_shows_of_dryRun hdry hselector

theorem forward_shows_of_dryRun (hkind : e.kind = .forward)
    (hclear : ∀ failure, ¬ s.Obstacle e env failure) :
    (s.forward e env).Shows Event.isAction [] (.ok 0) := by
  rcases forward_cases_of_clear hkind hselector hclear with hplain | ⟨tag, f, hf, htagged⟩
  · rw [hplain]
    exact forwardBy_shows_of_dryRun hdry hselector
  · rw [htagged]
    refine forwardBy_shows _ (fun _ => rfl) (Entry.command_of_selector hselector ..) ?_
    exact runTagged_shows (fun _ => rfl) hf (Runner.stream_shows_of_dryRun hdry ..)

end DryRun

/-- An operation that is only announced succeeds unless there is an obstacle. -/
theorem execute_shows_of_dryRun {s : Workshop} {e : Entry} {env : Environment} {o : Operation}
    (hdry : s.runner.dryRun = true) (ho : Operation.ofEntry e = .ok o)
    (hclear : ∀ failure, ¬ s.Obstacle e env failure) :
    (s.execute o env).Shows Event.isAction [] (.ok 0) := by
  rcases ofEntry_cases ho with ⟨hkind, rfl⟩ | ⟨tool, hkind, -, rfl⟩ | ⟨hkind, rfl⟩
  · obtain ⟨selector, hselector⟩ := exists_selector_of_clear (by simp [hkind]) hclear
    exact forward_shows_of_dryRun hdry hselector hkind hclear
  · obtain ⟨selector, hselector⟩ := exists_selector_of_clear (by simp [hkind]) hclear
    exact helper_shows_of_dryRun hdry hselector tool
  · exact info_shows_of_clear hkind hclear

/-! ### Excuses -/

section Excuse

variable {s : Workshop} {env : Environment} (hreal : s.runner.dryRun = false)

theorem checkDirectory_failsOnly (s : Workshop) (env : Environment) :
    (checkDirectory s.world (some s.rootDir)).FailsOnly (s.Excuse env) := by
  cases hdir : s.world.isDirectory (Path.ofText s.rootDir).text with
  | true =>
    rw [checkDirectory_of_isDirectory hdir]
    exact failsOnly_pure ()
  | false =>
    rw [checkDirectory_of_missing hdir]
    exact failsOnly_fail (.directory hdir)

theorem attempt_failsOnly (s : Workshop) (args : List Text) (env : Environment) (d : Option Text)
    (routing : Routing) :
    (attempt s.world ⟨s.toolchain :: args, d, env, routing⟩).FailsOnly (s.Excuse env) := by
  refine FailsOnly.bind (failsOnly_of_ok rfl) fun _ _ => ?_
  cases houtcome : s.world.outcome (s.toolchain :: args) with
  | exited status stdout => exact failsOnly_pure _
  | missing => exact failsOnly_pure _
  | denied => exact failsOnly_fail (.denied houtcome)
  | interrupted => exact failsOnly_fail (.interrupted houtcome)
  | failed cause => exact failsOnly_fail (.failed houtcome)

include hreal

theorem run_failsOnly (args : List Text) (quiet : Bool) :
    (s.run (s.toolchain :: args) env quiet).FailsOnly (s.Excuse env) := by
  unfold run Runner.run
  refine (failsOnly_say _ _ _ _).bind fun _ _ => ?_
  refine (failsOnly_say _ _ _ _).bind fun _ _ => ?_
  rw [if_neg (by simp [hreal])]
  refine (checkDirectory_failsOnly s env).bind fun _ _ => ?_
  refine (s.attempt_failsOnly _ _ _ _).bind fun found _ => ?_
  cases found with
  | some finished => exact failsOnly_pure _
  | none =>
    cases quiet with
    | true => exact failsOnly_pure _
    | false => exact (failsOnly_say _ _ _ _).bind fun _ _ => failsOnly_pure _

theorem stream_failsOnly (args : List Text) (f : LineFilter) :
    (s.runner.stream s.world (s.toolchain :: args) env (some s.rootDir) f).FailsOnly
      (s.Excuse env) := by
  unfold Runner.stream
  refine (failsOnly_say _ _ _ _).bind fun _ _ => ?_
  rw [if_neg (by simp [hreal])]
  refine (checkDirectory_failsOnly s env).bind fun _ _ => ?_
  refine (s.attempt_failsOnly _ _ _ _).bind fun found _ => ?_
  cases found with
  | some finished => exact (failsOnly_of_ok (emitAll_result _)).bind fun _ _ => failsOnly_pure _
  | none => exact (failsOnly_say _ _ _ _).bind fun _ _ => failsOnly_pure _

theorem provision_failsOnly (tool : HelperTool) :
    (s.provision tool env).FailsOnly (s.Excuse env) := by
  unfold provision
  cases hself : s.provisioner with
  | toolchain =>
    refine (failsOnly_say _ _ _ _).bind fun _ _ => ?_
    refine (run_failsOnly hreal _ _).bind fun status _ => ?_
    split
    · exact (failsOnly_say _ _ _ _).bind fun _ _ => failsOnly_pure _
    · exact (failsOnly_say _ _ _ _).bind fun _ _ => failsOnly_pure _
  | asking install =>
    refine FailsOnly.bind (failsOnly_of_ok rfl) fun _ _ failure hfailure => ?_
    exact .provisioner hself hfailure

variable {e : Entry} {selector : List Text} (hselector : e.selector = .ok selector)

include hselector

omit hreal in
theorem forwardBy_failsOnly {run : List Text → Run Int}
    (hrun : ∀ args, (run (s.toolchain :: args)).FailsOnly (s.Excuse env)) :
    (s.forwardBy e run).FailsOnly (s.Excuse env) := by
  unfold forwardBy
  rw [Entry.command_of_selector hselector]
  refine FailsOnly.bind (failsOnly_of_ok rfl) fun command hcommand => ?_
  obtain rfl := Except.ok.inj hcommand
  refine (failsOnly_say _ _ _ _).bind fun _ _ => ?_
  exact (hrun _).bind fun status _ => failsOnly_of_ok (s.judged_result e.name status)

theorem forward_failsOnly (hkind : e.kind = .forward)
    (hclear : ∀ failure, ¬ s.Obstacle e env failure) :
    (s.forward e env).FailsOnly (s.Excuse env) := by
  rcases forward_cases_of_clear hkind hselector hclear with hplain | ⟨tag, f, hf, htagged⟩
  · rw [hplain]
    exact forwardBy_failsOnly hselector fun args => run_failsOnly hreal args false
  · rw [htagged]
    refine forwardBy_failsOnly hselector fun args => ?_
    unfold runTagged
    rw [hf]
    refine FailsOnly.bind (failsOnly_of_ok rfl) fun f _ => ?_
    refine (stream_failsOnly hreal args f).bind fun _ _ => ?_
    exact (failsOnly_say _ _ _ _).bind fun _ _ => failsOnly_pure _

theorem ensure_failsOnly (tool : HelperTool) :
    (s.ensure e tool env).FailsOnly (s.Excuse env) := by
  have checked : (s.isAvailable e tool env).FailsOnly (s.Excuse env) := by
    unfold isAvailable
    rw [Entry.command_of_selector hselector]
    refine FailsOnly.bind (failsOnly_of_ok rfl) fun command hcommand => ?_
    obtain rfl := Except.ok.inj hcommand
    refine (failsOnly_say _ _ _ _).bind fun _ _ => ?_
    exact (run_failsOnly hreal _ _).bind fun _ _ => failsOnly_pure _
  refine checked.bind fun found _ => ?_
  split
  · exact (failsOnly_say _ _ _ _).bind fun _ _ => failsOnly_pure _
  · exact (failsOnly_say _ _ _ _).bind fun _ _ => provision_failsOnly hreal tool

theorem helper_failsOnly (tool : HelperTool) :
    (s.helper e tool env).FailsOnly (s.Excuse env) := by
  refine (ensure_failsOnly hreal hselector tool).bind fun ready _ => ?_
  split
  · exact failsOnly_pure _
  · exact forwardBy_failsOnly hselector fun args => run_failsOnly hreal args false

end Excuse

/-- What fails without an obstacle was really run, and has an excuse. -/
theorem execute_failsOnly {s : Workshop} {e : Entry} {env : Environment} {o : Operation}
    (ho : Operation.ofEntry e = .ok o) (hclear : ∀ failure, ¬ s.Obstacle e env failure) :
    (s.execute o env).FailsOnly fun failure => s.runner.dryRun = false ∧ s.Excuse env failure := by
  intro failure hfailure
  cases hdry : s.runner.dryRun with
  | true => cases (execute_shows_of_dryRun hdry ho hclear).result.symm.trans hfailure
  | false =>
    refine ⟨rfl, ?_⟩
    rcases ofEntry_cases ho with ⟨hkind, rfl⟩ | ⟨tool, hkind, -, rfl⟩ | ⟨hkind, rfl⟩
    · obtain ⟨selector, hselector⟩ := exists_selector_of_clear (by simp [hkind]) hclear
      exact forward_failsOnly hdry hselector hkind hclear failure hfailure
    · obtain ⟨selector, hselector⟩ := exists_selector_of_clear (by simp [hkind]) hclear
      exact helper_failsOnly hdry hselector tool failure hfailure
    · cases (info_shows_of_clear hkind hclear).result.symm.trans hfailure

/-- Whatever an operation fails with, it stands in its way or it is an excuse. -/
theorem obstacle_or_excuse_of_error {s : Workshop} {e : Entry} {env : Environment} {o : Operation}
    (ho : Operation.ofEntry e = .ok o) {failure : Failure}
    (h : (s.execute o env).result = .error failure) :
    s.Obstacle e env failure ∨ s.runner.dryRun = false ∧ s.Excuse env failure := by
  by_cases hclear : ∀ failure, ¬ s.Obstacle e env failure
  · exact .inr (execute_failsOnly ho hclear failure h)
  · obtain ⟨other, hobstacle⟩ := not_forall_not.mp hclear
    have hother := (execute_of_obstacle ho hobstacle).result
    obtain rfl : other = failure := Except.error.inj (hother.symm.trans h)
    exact .inl hobstacle

end Workshop

/-! ### Every dispatch of every session -/

theorem Session.perform_failsOnly {c : Setup} {s : Session} {o : Operation} {P : Failure → Prop}
    (h : ((s.workshop c).execute o (s.environmentNow o)).FailsOnly P) :
    (s.perform c o).run.FailsOnly P := by
  rw [perform_run]
  exact (failsOnly_of_ok (prelude_result c s o)).bind fun _ _ => h

/-- An entry of a loaded configuration always has an operation. If something stands in its way, a
dispatch fails with that and nothing is attempted; otherwise a dispatch returns a status, or fails
with an excuse that the world and the provisioner give. -/
theorem dispatch_fails {files : ConfigFiles} {directory : Text} {config : Configuration}
    (hload : files.load directory = .ok config) {c : Setup}
    (hc : c.catalogue = config.catalogue) (w : World) (i : Invocation)
    (history : List Session.Step) {name : Text} {e : Entry}
    (hname : config.catalogue.find? name = some e) :
    let s := ({ world := w, invocation := i } : Session).after c history
    let p := s.dispatch c name
    ∃ o, Operation.ofEntry e = .ok o ∧
      (∀ failure, (s.workshop c).Obstacle e (s.environmentNow o) failure →
        p.run.Shows Event.isAction [] (.error failure)) ∧
      ((∀ failure, ¬ (s.workshop c).Obstacle e (s.environmentNow o) failure) →
        p.run.FailsOnly fun failure =>
          s.invocation.dryRun = false ∧
            (s.workshop c).Excuse (s.environmentNow o) failure) := by
  intro s p
  have regular : s.Regular c i := Session.regular_after_of_load hload hc w i history
  obtain ⟨o, kept, ho, hp⟩ : ∃ o kept, Operation.ofEntry e = .ok o ∧
      p = { s with instances := kept }.perform c o :=
    Session.exists_perform_of_load hload hc regular hname
  rw [hp]
  refine ⟨o, ho, fun failure hobstacle => ?_, fun hclear => ?_⟩
  · exact Session.perform_shows (Workshop.execute_of_obstacle ho hobstacle)
  · exact Session.perform_failsOnly (Workshop.execute_failsOnly ho hclear)

/-- An invocation that is gathered without any flags. -/
def Configuration.invocation (config : Configuration) : Invocation :=
  { rootDir := .ofText "/work", toolchain := "cargo", library := config.library,
    baseEnv := .ofList [("PATH", "/bin")] }

/-- A build in a directory that does not exist, after an audit that failed for the same reason. -/
theorem buildNowhere_excused : ∃ config e, ConfigFiles.small.load "etc" = .ok config ∧
    config.catalogue.find? "b" = some e ∧
    let c : Setup := { catalogue := config.catalogue, logger := {} }
    let s := ({ world := .nowhere, invocation := config.invocation } : Session).after c
      [.dispatch "audit"]
    (s.dispatch c "b").run.result = .error (.missingDirectory "/work") ∧
      ∃ env, (s.workshop c).Excuse env (.missingDirectory "/work") := by
  have hload : ConfigFiles.small.load "etc" = .ok _ := rfl
  refine ⟨_, _, hload, rfl, rfl, ?_⟩
  obtain ⟨o, ho, -, hexcused⟩ := @dispatch_fails _ _ _ hload
    { catalogue := _, logger := {} } rfl .nowhere _ [.dispatch "audit"] "b" _ rfl
  refine ⟨_, (hexcused (fun failure hobstacle => ?_) _ rfl).2⟩
  cases hobstacle with
  | channel _ hselector => cases hselector
  | filter _ _ hsome => cases hsome
  | tag _ _ hview => cases hview
  | report hkind => cases hkind

/-- A number stands where the tag of a check should be. -/
def numberTag : ConfigFiles := .withEntry "t"
  [(.str "kind", .str "forward"), (.str "args", .list [.str "check"]),
    (.str "output_filter", .int 5)]

/-- The number is taken over, and then it is no text. -/
theorem numberTag_fails : ∃ config, numberTag.load "etc" = .ok config ∧
    config.gather (.ofList [("PATH", "/bin")]) {} (.ofText "/work") = .ok config.invocation ∧
    ("t" : Text) ∈ config.catalogue.keys ∧
    let p := ({ world := optMachine, invocation := config.invocation } : Session).dispatch
      { catalogue := config.catalogue, logger := {} } "t"
    p.run.result = .error (.noAttribute "int" "encode") ∧
      ¬ ((∃ code, p.run.result = .ok code) ∨
        (∃ path, p.run.result = .error (.missingDirectory path)) ∨
        (∃ program, p.run.result = .error (.denied program)) ∨
        p.run.result = .error .interrupted) := by
  refine ⟨_, rfl, rfl, by decide, rfl, ?_⟩
  rintro (⟨code, h⟩ | ⟨path, h⟩ | ⟨program, h⟩ | h)
  · cases h
  · cases h
  · cases h
  · cases h

end BuildDispatch
