import BuildDispatch.Proofs.Operation.Footprint
import BuildDispatch.Proofs.Operation.HelperProtocol

/-!
# When the work is done

An operation succeeds if its own command was run, last of all, and returned zero. A forward
operation has no other command; a helper operation has its tool before, because the check for it or
the installation succeeded. There is no other way to the status zero: what cannot be run, and what
is refused before anything is run, ends in a failure or in another status.

## Main statements

* `Workshop.Done`: the attempts of an operation whose work is done.
* `Workshop.execute_eq_ok_zero_iff`: an operation comes to the status zero exactly if its work is
  done.
-/

namespace BuildDispatch

open Run

/-! ### Single commands -/

@[simp] theorem Trace.attempts_nil : Trace.attempts [] = [] := rfl

/-- The command runs to its end and returns zero. -/
def World.Succeeds (w : World) (command : List Text) : Prop :=
  ∃ stdout, w.outcome command = .exited 0 stdout

theorem World.statusOf_eq_ok_zero_iff {w : World} {command : List Text} :
    w.statusOf command = .ok 0 ↔ w.Succeeds command := by
  unfold statusOf Succeeds
  cases w.outcome command with
  | exited status stdout => simp
  | missing => simp [commandNotFound]
  | denied => simp
  | interrupted => simp
  | failed cause => simp

/-- Nothing is attempted, and the run fails. -/
def Run.Refuses {α : Type} (r : Run α) : Prop :=
  ∃ failure, r.Shows Event.isAction [] (.error failure)

theorem Run.Refuses.bind {α β : Type} {r : Run α} (h : r.Refuses) (f : α → Run β) :
    (r >>= f).Refuses := by
  obtain ⟨failure, hshows⟩ := h
  exact ⟨failure, hshows.bind_error⟩

theorem Run.Refuses.after {α β : Type} {r : Run α} {f : α → Run β} {a : α} (h : (f a).Refuses)
    (hr : r.Shows Event.isAction [] (.ok a)) : (r >>= f).Refuses := by
  obtain ⟨failure, hshows⟩ := h
  exact ⟨failure, hshows.after hr⟩

theorem Run.refuses_or_shows_after {α β : Type} {r : Run α} {f : α → Run β} {a : α} {t : Trace}
    {result : Except Failure β} (h : (f a).Refuses ∨ (f a).Shows Event.isAction t result)
    (hr : r.Shows Event.isAction [] (.ok a)) :
    (r >>= f).Refuses ∨ (r >>= f).Shows Event.isAction t result :=
  h.imp (·.after hr) (·.after hr)

namespace Runner

variable {r : Runner} {w : World} {d : Text}

section Missing

variable {keep : Event → Bool} (hkeep : ∀ r, keep (.logged r) = false) (hr : r.dryRun = false)
  (hd : w.isDirectory (Path.ofText d).text = false)

include hkeep hr hd

/-- Without its directory a command is logged, and that is all. -/
theorem run_shows_of_missing (command : List Text) (env : Environment) (quiet : Bool) :
    (r.run w command env (some d) quiet).Shows keep [] (.error (.missingDirectory d)) := by
  unfold run
  refine Shows.after ?_ (shows_say _ _ _ _ hkeep)
  refine Shows.after ?_ (shows_say _ _ _ _ hkeep)
  rw [if_neg (by simp [hr]), checkDirectory_of_missing hd]
  exact (shows_fail _).bind_error

theorem stream_shows_of_missing (command : List Text) (env : Environment) (f : LineFilter) :
    (r.stream w command env (some d) f).Shows keep [] (.error (.missingDirectory d)) := by
  unfold stream
  refine Shows.after ?_ (shows_say _ _ _ _ hkeep)
  rw [if_neg (by simp [hr]), checkDirectory_of_missing hd]
  exact (shows_fail _).bind_error

end Missing

theorem run_refuses (hr : r.dryRun = false) (hd : w.isDirectory (Path.ofText d).text = false)
    (command : List Text) (env : Environment) (quiet : Bool) :
    (r.run w command env (some d) quiet).Refuses :=
  ⟨_, run_shows_of_missing (fun _ => rfl) hr hd command env quiet⟩

theorem stream_refuses (hr : r.dryRun = false) (hd : w.isDirectory (Path.ofText d).text = false)
    (command : List Text) (env : Environment) (f : LineFilter) :
    (r.stream w command env (some d) f).Refuses :=
  ⟨_, stream_shows_of_missing (fun _ => rfl) hr hd command env f⟩

/-- What an attempt comes to once its output has gone through a filter. -/
def streamed (sink : Sink) (f : LineFilter) : Option (Int × Octets) → Int × LineFilter
  | some (status, stdout) => (status, (filterLines sink f (Text.cutAfter 0x0A stdout)).2)
  | none => (commandNotFound, f)

theorem map_streamed_finished (w : World) (command : List Text) (sink : Sink) (f : LineFilter) :
    ((w.finished command).map (streamed sink f)).map Prod.fst = w.statusOf command := by
  unfold World.finished World.statusOf
  cases w.outcome command <;> rfl

/-- A stream attempts its command once, too. -/
theorem stream_shows (hr : r.dryRun = false) (hd : w.isDirectory (Path.ofText d).text = true)
    (program : Text) (args : List Text) (env : Environment) (f : LineFilter) :
    (r.stream w (program :: args) env (some d) f).Shows Event.isAction
      [.attempted ⟨program :: args, some d, env, .piped⟩]
      ((w.finished (program :: args)).map (streamed r.sink f)) := by
  unfold stream
  refine Shows.after ?_ (say_shows ..)
  rw [checkDirectory_of_isDirectory hd, if_neg (by simp [hr])]
  refine Shows.after ?_ (shows_pure _)
  refine (attempt_shows w _).bind_map fun found => ?_
  cases found with
  | none => exact Shows.after (shows_pure _) (reportMissing_shows ..)
  | some finished =>
    obtain ⟨status, stdout⟩ := finished
    have silent := every_emitAll
      (filterLines_every (P := fun ev => ev.isAction = false) (fun _ => rfl) r.sink f
        (Text.cutAfter 0x0A stdout))
    exact Shows.after (shows_pure _) (silent.shows rfl)

end Runner

/-! ### Operations -/

namespace Entry

theorem command_of_selector {e : Entry} {selector : List Text} (h : e.selector = .ok selector)
    (toolchain : Text) (args : List Text) :
    e.command toolchain args = .ok (toolchain :: (selector ++ args)) := by
  rw [command_eq, h]
  rfl

theorem command_of_selector_error {e : Entry} {cause : Unwritable} (h : e.selector = .error cause)
    (toolchain : Text) (args : List Text) :
    e.command toolchain args = .error (.unwritable cause) := by
  rw [command_eq, h]
  rfl

end Entry

namespace Workshop

/-- How the output of a forward operation is taken. -/
def routing (e : Entry) : Routing := if e.outputFilter.isNothing then .inherited else .piped

section Cases

variable {s : Workshop} (hreal : s.runner.dryRun = false)

theorem judged_shows {keep : Event → Bool} (hkeep : ∀ r, keep (.logged r) = false) (s : Workshop)
    (name : Text) (status : Int) :
    (do s.judge name status; pure status : Run Int).Shows keep [] (.ok status) :=
  Shows.after (shows_pure _) (judge_shows hkeep ..)

theorem judged_result (s : Workshop) (name : Text) (status : Int) :
    (do s.judge name status; pure status : Run Int).result = .ok status := by
  have judged : (do s.judge name status; pure status : Run Int).Shows Event.isAction [] _ :=
    judged_shows (fun _ => rfl) s name status
  exact judged.result

include hreal

theorem forward_refuses (hdir : s.world.isDirectory (Path.ofText s.rootDir).text = false)
    (e : Entry) (env : Environment) : (s.forward e env).Refuses := by
  unfold forward
  cases e.command s.toolchain e.args with
  | error failure => exact ⟨_, (shows_ofResult _).bind_error⟩
  | ok command =>
    refine Refuses.after ?_ (shows_ofResult _)
    refine Refuses.after ?_ (say_shows ..)
    split
    · exact (Runner.run_refuses hreal hdir _ _ _).bind _
    · split
      · next tag _ =>
        cases LineFilter.forTag tag with
        | error cause => exact ⟨_, (shows_ofResult _).bind_error⟩
        | ok f =>
          refine Refuses.after ?_ (shows_ofResult _)
          exact (Runner.stream_refuses hreal hdir _ _ _).bind _
      · exact ⟨_, (shows_fail _).bind_error⟩

/-- Without a tag the command is run, and with a tag its output is streamed. What is no text cannot
be a tag. -/
theorem forward_refuses_or_shows
    (hdir : s.world.isDirectory (Path.ofText s.rootDir).text = true) {e : Entry}
    {selector : List Text} (hselector : e.selector = .ok selector) (env : Environment) :
    (s.forward e env).Refuses ∨
      (s.forward e env).Shows Event.isAction [(s.stage (selector ++ e.args) env (routing e)).action]
        (s.stage (selector ++ e.args) env (routing e)).ending := by
  unfold forward routing
  rw [Entry.command_of_selector hselector]
  refine refuses_or_shows_after ?_ (shows_ofResult _)
  refine refuses_or_shows_after ?_ (say_shows ..)
  split
  · have ran := run_shows hreal hdir (selector ++ e.args) env false
    exact .inr (ran.bind_same (judged_shows (fun _ => rfl) s e.name))
  · split
    · next tag _ =>
      cases LineFilter.forTag tag with
      | error cause => exact .inl ⟨_, (shows_ofResult _).bind_error⟩
      | ok f =>
        refine .inr (Shows.after ?_ (shows_ofResult _))
        have streamed := Runner.stream_shows hreal hdir s.toolchain (selector ++ e.args) env f
        have hending : (s.stage (selector ++ e.args) env .piped).ending = _ :=
          (Runner.map_streamed_finished _ _ s.runner.sink f).symm
        rw [hending]
        refine streamed.bind_map fun found => Shows.after ?_ (say_shows ..)
        exact Shows.after (judged_shows (fun _ => rfl) s e.name _) (shows_pure _)
    · exact .inl ⟨_, (shows_fail _).bind_error⟩

/-- A forward operation is refused, or its command is attempted once. -/
theorem forward_cases (e : Entry) (env : Environment) :
    (s.forward e env).Refuses ∨ ∃ selector, e.selector = .ok selector ∧
      s.world.isDirectory (Path.ofText s.rootDir).text = true ∧
      (s.forward e env).Shows Event.isAction [(s.stage (selector ++ e.args) env (routing e)).action]
        (s.stage (selector ++ e.args) env (routing e)).ending := by
  cases hselector : e.selector with
  | error cause =>
    unfold forward
    rw [Entry.command_eq, hselector]
    exact .inl ⟨_, (shows_ofResult _).bind_error⟩
  | ok selector =>
    cases hdir : s.world.isDirectory (Path.ofText s.rootDir).text with
    | false => exact .inl (forward_refuses hreal hdir e env)
    | true =>
      exact (forward_refuses_or_shows hreal hdir hselector env).imp_right fun hshows =>
        ⟨selector, rfl, rfl, hshows⟩

theorem helper_refuses (hdir : s.world.isDirectory (Path.ofText s.rootDir).text = false)
    (e : Entry) (tool : HelperTool) (env : Environment) : (s.helper e tool env).Refuses := by
  refine Refuses.bind (Refuses.bind ?_ _) _
  unfold isAvailable
  cases e.command s.toolchain tool.checkArgs with
  | error failure => exact ⟨_, (shows_ofResult _).bind_error⟩
  | ok command =>
    refine Refuses.after ?_ (shows_ofResult _)
    refine Refuses.after ?_ (say_shows ..)
    exact (Runner.run_refuses hreal hdir _ _ _).bind _

/-- A helper operation is refused, or takes its course. -/
theorem helper_cases (e : Entry) (tool : HelperTool) (env : Environment) :
    (s.helper e tool env).Refuses ∨ ∃ selector actions result, e.selector = .ok selector ∧
      s.world.isDirectory (Path.ofText s.rootDir).text = true ∧
      Course (s.checkStage selector tool env) (s.installStage tool env)
        (s.mainStage selector e env) actions result ∧
      (s.helper e tool env).Shows Event.isAction actions result := by
  cases hselector : e.selector with
  | error cause => exact .inl ⟨_, s.helper_shows_of_unwritable hselector tool env⟩
  | ok selector =>
    cases hdir : s.world.isDirectory (Path.ofText s.rootDir).text with
    | false => exact .inl (helper_refuses hreal hdir e tool env)
    | true =>
      obtain ⟨actions, result, hcourse⟩ := Course.exists (s.checkStage selector tool env)
        (s.installStage tool env) (s.mainStage selector e env)
      exact .inr ⟨selector, actions, result, rfl, rfl, hcourse,
        helper_shows hreal hdir hselector hcourse⟩

end Cases

/-! ### Success -/

/-- The attempts of an operation whose work is done, with the toolchain as the one who installs
tools. -/
inductive Done (s : Workshop) (e : Entry) (env : Environment) : List Attempt → Prop
  | forward {main : List Text} (hkind : e.kind = .forward)
    (hmain : e.command s.toolchain e.args = .ok main) (hdone : s.world.Succeeds main) :
    Done s e env [⟨main, some s.rootDir, env, routing e⟩]
  | present {tool : HelperTool} {check main : List Text} (hkind : e.kind = .helper)
    (htool : e.helper = some tool) (hcheck : e.command s.toolchain tool.checkArgs = .ok check)
    (hmain : e.command s.toolchain e.args = .ok main) (hpresent : s.world.Succeeds check)
    (hdone : s.world.Succeeds main) :
    Done s e env
      [⟨check, some s.rootDir, env, .discarded⟩, ⟨main, some s.rootDir, env, .inherited⟩]
  | installed {tool : HelperTool} {check main : List Text} (hkind : e.kind = .helper)
    (htool : e.helper = some tool) (hcheck : e.command s.toolchain tool.checkArgs = .ok check)
    (hmain : e.command s.toolchain e.args = .ok main)
    (hinstalled : s.world.Succeeds (s.toolchain :: tool.installArgs))
    (hdone : s.world.Succeeds main) :
    Done s e env
      [⟨check, some s.rootDir, env, .discarded⟩,
        ⟨s.toolchain :: tool.installArgs, some s.rootDir, env, .inherited⟩,
        ⟨main, some s.rootDir, env, .inherited⟩]

theorem attempts_cons_stage (s : Workshop) (args : List Text) (env : Environment)
    (routing : Routing) (t : Trace) :
    Trace.attempts ((s.stage args env routing).action :: t) =
      ⟨s.toolchain :: args, some s.rootDir, env, routing⟩ :: t.attempts := rfl

section Done

variable {s : Workshop} {e : Entry} {env : Environment}

/-- Last of all comes the command of the operation itself. -/
theorem Done.getLast?_eq {attempts : List Attempt} (h : s.Done e env attempts) :
    ∃ main routing, e.command s.toolchain e.args = .ok main ∧ s.world.Succeeds main ∧
      attempts.getLast? = some ⟨main, some s.rootDir, env, routing⟩ := by
  cases h with
  | forward hkind hmain hdone => exact ⟨_, _, hmain, hdone, rfl⟩
  | present hkind htool hcheck hmain hpresent hdone => exact ⟨_, _, hmain, hdone, rfl⟩
  | installed hkind htool hcheck hmain hinstalled hdone => exact ⟨_, _, hmain, hdone, rfl⟩

theorem Done.ne_nil {attempts : List Attempt} (h : s.Done e env attempts) : attempts ≠ [] := by
  cases h <;> exact List.cons_ne_nil _ _

theorem Done.environment_eq {attempts : List Attempt} (h : s.Done e env attempts) :
    ∀ a ∈ attempts, a.environment = env := by
  cases h <;> simp

/-- An operation that was given an environment can only have done its work in it. -/
theorem Done.environment_eq_given {o : Operation} {given : Environment}
    (h : s.Done e env (s.execute o given).events.attempts) : env = given := by
  obtain ⟨a, ha⟩ := List.exists_mem_of_ne_nil _ h.ne_nil
  have permitted := s.execute_every given o _ (Trace.mem_attempts.mp ha)
  exact (h.environment_eq a ha).symm.trans permitted.2

section Course

variable {tool : HelperTool} {selector : List Text} {actions : Trace}
  {result : Except Failure Int} (hkind : e.kind = .helper) (htool : e.helper = some tool)
  (hselector : e.selector = .ok selector)

include hkind htool hselector

/-- A course that comes to zero has run the command of the operation. -/
theorem done_of_course
    (hcourse : Course (s.checkStage selector tool env) (s.stage tool.installArgs env .inherited)
      (s.mainStage selector e env) actions result) (hresult : result = .ok 0) :
    s.Done e env actions.attempts := by
  have hcheck := Entry.command_of_selector hselector s.toolchain tool.checkArgs
  have hmain := Entry.command_of_selector hselector s.toolchain e.args
  cases hcourse with
  | unchecked => cases hresult
  | present hpresent =>
    exact .present hkind htool hcheck hmain (World.statusOf_eq_ok_zero_iff.mp hpresent)
      (World.statusOf_eq_ok_zero_iff.mp hresult)
  | interrupted => cases hresult
  | uninstalled _ _ _ hcode => exact absurd (Except.ok.inj hresult) hcode
  | installed _ _ hinstalled =>
    exact .installed hkind htool hcheck hmain (World.statusOf_eq_ok_zero_iff.mp hinstalled)
      (World.statusOf_eq_ok_zero_iff.mp hresult)

/-- A course whose attempts are those of work that is done comes to zero. -/
theorem Done.result_eq_of_course (h : s.Done e env actions.attempts)
    (hcourse : Course (s.checkStage selector tool env) (s.stage tool.installArgs env .inherited)
      (s.mainStage selector e env) actions result) : result = .ok 0 := by
  have hcheck := Entry.command_of_selector hselector s.toolchain tool.checkArgs
  have hmain := Entry.command_of_selector hselector s.toolchain e.args
  generalize hattempts : actions.attempts = attempts at h
  cases h with
  | forward hkind' => simp [hkind] at hkind'
  | present _ htool' hcheck' hmain' hpresent hdone =>
    obtain rfl := Option.some.inj (htool.symm.trans htool')
    obtain rfl := Except.ok.inj (hcheck.symm.trans hcheck')
    obtain rfl := Except.ok.inj (hmain.symm.trans hmain')
    -- Where the check succeeds nothing is installed, so two of the courses are out.
    have hfound := World.statusOf_eq_ok_zero_iff.mpr hpresent
    cases hcourse with
    | unchecked => simp [checkStage, attempts_cons_stage] at hattempts
    | present => exact World.statusOf_eq_ok_zero_iff.mpr hdone
    | interrupted hstatus habsent =>
      exact absurd (Except.ok.inj (hstatus.symm.trans hfound)) habsent
    | uninstalled hstatus habsent =>
      exact absurd (Except.ok.inj (hstatus.symm.trans hfound)) habsent
    | installed => simp [checkStage, mainStage, attempts_cons_stage] at hattempts
  | installed _ _ _ hmain' _ hdone =>
    obtain rfl := Except.ok.inj (hmain.symm.trans hmain')
    cases hcourse with
    | installed => exact World.statusOf_eq_ok_zero_iff.mpr hdone
    | _ => simp [checkStage, mainStage, attempts_cons_stage] at hattempts

end Course

variable (hreal : s.runner.dryRun = false)

include hreal

theorem forward_eq_ok_zero_iff (hkind : e.kind = .forward) :
    (s.forward e env).result = .ok 0 ↔ s.Done e env (s.forward e env).events.attempts := by
  rcases forward_cases hreal e env with ⟨failure, hshows⟩ | ⟨selector, hselector, -, hshows⟩
  · rw [hshows.result, hshows.attempts_eq]
    exact ⟨nofun, fun h => absurd rfl h.ne_nil⟩
  have hmain := Entry.command_of_selector hselector s.toolchain e.args
  rw [hshows.result, hshows.attempts_eq]
  constructor
  · intro h
    exact .forward hkind hmain (World.statusOf_eq_ok_zero_iff.mp h)
  · intro h
    generalize hattempts : Trace.attempts _ = attempts at h
    cases h with
    | forward _ hmain' hdone =>
      obtain rfl := Except.ok.inj (hmain.symm.trans hmain')
      exact World.statusOf_eq_ok_zero_iff.mpr hdone
    | present hkind' => simp [hkind] at hkind'
    | installed hkind' => simp [hkind] at hkind'

theorem helper_eq_ok_zero_iff (hself : s.provisioner = .toolchain) (hkind : e.kind = .helper)
    {tool : HelperTool} (htool : e.helper = some tool) :
    (s.helper e tool env).result = .ok 0 ↔
      s.Done e env (s.helper e tool env).events.attempts := by
  rcases helper_cases hreal e tool env with
    ⟨failure, hshows⟩ | ⟨selector, actions, result, hselector, -, hcourse, hshows⟩
  · rw [hshows.result, hshows.attempts_eq]
    exact ⟨nofun, fun h => absurd rfl h.ne_nil⟩
  have hinstall : s.installStage tool env = s.stage tool.installArgs env .inherited := by
    rw [installStage, hself]
  rw [hinstall] at hcourse
  rw [hshows.result, hshows.attempts_eq]
  constructor
  · exact done_of_course hkind htool hselector hcourse
  · intro h
    exact h.result_eq_of_course hkind htool hselector hcourse

section Execute

variable {o : Operation} (ho : Operation.ofEntry e = .ok o) (hkind : e.kind ≠ .info)

include ho hkind

omit hreal in
/-- The operations that run commands, each with what its kind needs. -/
theorem operation_cases :
    (e.kind = .forward ∧ o = .forward e) ∨
      ∃ tool, e.kind = .helper ∧ e.helper = some tool ∧ o = .helper e tool := by
  unfold Operation.ofEntry at ho
  split at ho
  · next hforward => exact .inl ⟨hforward, (Except.ok.inj ho).symm⟩
  · next hhelper =>
    split at ho
    · next tool htool => exact .inr ⟨tool, hhelper, htool, (Except.ok.inj ho).symm⟩
    · cases ho
  · next hinfo => exact absurd hinfo hkind
  · cases ho

/-- In a directory that does not exist nothing is attempted. -/
theorem execute_refuses (hdir : s.world.isDirectory (Path.ofText s.rootDir).text = false)
    (env : Environment) : (s.execute o env).Refuses := by
  rcases operation_cases ho hkind with ⟨-, rfl⟩ | ⟨tool, -, -, rfl⟩
  · exact forward_refuses hreal hdir e env
  · exact helper_refuses hreal hdir e tool env

theorem execute_eq_ok_zero_iff (hself : s.provisioner = .toolchain) (given : Environment) :
    (s.execute o given).result = .ok 0 ↔
      ∃ env, s.Done e env (s.execute o given).events.attempts := by
  -- The environment of the attempts can be no other than the one that was given.
  have hgiven : (s.execute o given).result = .ok 0 ↔
      s.Done e given (s.execute o given).events.attempts := by
    rcases operation_cases ho hkind with ⟨hforward, rfl⟩ | ⟨tool, hhelper, htool, rfl⟩
    · exact forward_eq_ok_zero_iff hreal hforward
    · exact helper_eq_ok_zero_iff hreal hself hhelper htool
  constructor
  · intro h
    exact ⟨given, hgiven.mp h⟩
  · rintro ⟨env, h⟩
    obtain rfl := h.environment_eq_given
    exact hgiven.mpr h

end Execute
end Done
end Workshop
end BuildDispatch
