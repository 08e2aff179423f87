import BuildDispatch.Proofs.Run

/-!
# What the runner does

A command that is run without a filter is attempted once, in its directory and environment, and the
outcome of the attempt is the result. Whatever else a runner does, with a filter or without, is
logging and output.

## Main statements

* `Runner.run_shows`: the attempt and the status of a command that is really run.
* `Runner.run_every`, `Runner.stream_every`: the kinds of events that running may cause.
-/

namespace BuildDispatch

/-- The status that the attempt to run a command comes to. A missing program has a status of its
own. -/
def World.statusOf (w : World) (command : List Text) : Except Failure Int :=
  match w.outcome command with
  | .exited status _ => .ok status
  | .missing => .ok commandNotFound
  | .denied => .error (.denied (command.headD []))
  | .interrupted => .error .interrupted
  | .failed cause => .error (.system cause)

/-- Attempts to run a command, and calls for somebody else to install a tool. -/
def Event.isAction : Event → Bool
  | .attempted _ | .provisioned .. => true
  | _ => false

open Run

/-- What a run attempted is among its actions. -/
theorem Run.Shows.attempts_eq {α : Type} {r : Run α} {actions : Trace}
    {result : Except Failure α} (h : r.Shows Event.isAction actions result) :
    r.events.attempts = actions.attempts := by
  rw [← h.events, Trace.attempts_filter fun _ => rfl]

theorem Run.Shows.provisions_eq {α : Type} {r : Run α} {actions : Trace}
    {result : Except Failure α} (h : r.Shows Event.isAction actions result) :
    r.events.provisions = actions.provisions := by
  rw [← h.events, Trace.provisions_filter fun _ _ => rfl]

theorem say_shows (l : Log.Logger) (level : Log.Level) (source message : Text) :
    (l.say level source message).Shows Event.isAction [] (.ok ()) :=
  shows_say l level source message fun _ => rfl

theorem checkDirectory_of_isDirectory {w : World} {d : Text}
    (h : w.isDirectory (Path.ofText d).text = true) :
    checkDirectory w (some d) = pure () := by
  simp [checkDirectory, h]

theorem checkDirectory_of_missing {w : World} {d : Text}
    (h : w.isDirectory (Path.ofText d).text = false) :
    checkDirectory w (some d) = .fail (.missingDirectory d) :=
  if_neg (by simp [h])

/-- Without a program there is no output. -/
def World.finished (w : World) (command : List Text) : Except Failure (Option (Int × Octets)) :=
  match w.outcome command with
  | .exited status stdout => .ok (some (status, stdout))
  | .missing => .ok none
  | .denied => .error (.denied (command.headD []))
  | .interrupted => .error .interrupted
  | .failed cause => .error (.system cause)

theorem attempt_shows (w : World) (a : Attempt) :
    (attempt w a).Shows Event.isAction [.attempted a] (w.finished a.command) := by
  have asked : (emit (.attempted a)).Shows Event.isAction [.attempted a] (.ok ()) :=
    shows_emit rfl
  unfold attempt World.finished
  cases w.outcome a.command with
  | exited status stdout => exact asked.before (shows_pure _)
  | missing => exact asked.before (shows_pure _)
  | denied => exact asked.before (shows_fail _)
  | interrupted => exact asked.before (shows_fail _)
  | failed cause => exact asked.before (shows_fail _)

namespace Runner

theorem reportMissing_shows (r : Runner) (program : Text) (args : List Text) :
    (r.reportMissing (program :: args)).Shows Event.isAction [] (.ok ()) :=
  say_shows ..

theorem run_shows {r : Runner} {w : World} {d : Text} (hr : r.dryRun = false)
    (hd : w.isDirectory (Path.ofText d).text = true) (program : Text) (args : List Text)
    (env : Environment) (quiet : Bool) :
    (r.run w (program :: args) env (some d) quiet).Shows Event.isAction
      [.attempted ⟨program :: args, some d, env, if quiet then .discarded else .inherited⟩]
      (w.statusOf (program :: args)) := by
  unfold run World.statusOf
  refine Shows.after ?_ (say_shows ..)
  refine Shows.after ?_ (say_shows ..)
  rw [checkDirectory_of_isDirectory hd, if_neg (by simp [hr])]
  refine Shows.after ?_ (shows_pure _)
  have tried := attempt_shows w
    ⟨program :: args, some d, env, if quiet then .discarded else .inherited⟩
  unfold World.finished at tried
  cases h : w.outcome (program :: args) with
  | exited status stdout =>
    rw [h] at tried
    exact tried.before (shows_pure _)
  | missing =>
    rw [h] at tried
    refine tried.before ?_
    cases quiet with
    | true => exact shows_pure _
    | false => exact Shows.after (shows_pure _) (reportMissing_shows ..)
  | denied =>
    rw [h] at tried
    exact tried.bind_error
  | interrupted =>
    rw [h] at tried
    exact tried.bind_error
  | failed cause =>
    rw [h] at tried
    exact tried.bind_error

/-- A command that is only announced is not attempted, and it passes for a success. -/
theorem run_shows_of_dryRun {r : Runner} (hr : r.dryRun = true) (w : World) (command : List Text)
    (env : Environment) (d : Option Text) (quiet : Bool) :
    (r.run w command env d quiet).Shows Event.isAction [] (.ok 0) := by
  have announced : (do r.announce command; pure 0 : Run Int).Shows Event.isAction [] (.ok 0) :=
    Shows.after (shows_pure _) (say_shows ..)
  unfold run
  rw [if_pos hr]
  refine Shows.after ?_ (say_shows ..)
  cases d with
  | none => exact announced
  | some d => exact Shows.after announced (say_shows ..)

theorem stream_shows_of_dryRun {r : Runner} (hr : r.dryRun = true) (w : World)
    (command : List Text) (env : Environment) (d : Option Text) (f : LineFilter) :
    (r.stream w command env d f).Shows Event.isAction [] (.ok (0, f)) := by
  unfold stream
  rw [if_pos hr]
  refine Shows.after ?_ (say_shows ..)
  exact Shows.after (shows_pure _) (say_shows ..)

/-! ### Kinds of events -/

section Every

variable {P : Event → Prop} (hlogged : ∀ r, P (.logged r))

include hlogged

theorem announce_every (r : Runner) (command : List Text) : (r.announce command).Every P :=
  every_say _ _ _ _ hlogged

theorem reportMissing_every (r : Runner) (command : List Text) :
    (r.reportMissing command).Every P := by
  cases command with
  | nil => exact every_fail _
  | cons => exact every_say _ _ _ _ hlogged

omit hlogged in
theorem checkDirectory_every (w : World) (d : Option Text) : (checkDirectory w d).Every P := by
  unfold checkDirectory
  split
  · exact every_pure _
  · split
    · exact every_pure _
    · exact every_fail _

omit hlogged in
theorem attempt_every (w : World) {a : Attempt} (h : P (.attempted a)) :
    (attempt w a).Every P := by
  refine (every_emit h).bind fun _ _ => ?_
  split
  · exact every_pure _
  · exact every_pure _
  · exact every_fail _
  · exact every_fail _
  · exact every_fail _

theorem run_every (r : Runner) (w : World) {command : List Text} {env : Environment}
    {d : Option Text} (hattempted : ∀ routing, P (.attempted ⟨command, d, env, routing⟩))
    (quiet : Bool) : (r.run w command env d quiet).Every P := by
  refine (every_say _ _ _ _ hlogged).bind fun _ _ => ?_
  extract_lets -underBinder rest
  have hrest : (rest ()).Every P := by
    dsimp only [rest]
    split
    · exact (announce_every hlogged _ _).bind fun _ _ => every_pure _
    · refine (checkDirectory_every _ _).bind fun _ _ => ?_
      refine (attempt_every w (hattempted _)).bind fun found _ => ?_
      split
      · exact every_pure _
      · split
        · exact (reportMissing_every hlogged _ _).bind fun _ _ => every_pure _
        · exact every_pure _
  split
  · exact (every_say _ _ _ _ hlogged).bind fun _ _ => hrest
  · exact hrest

omit hlogged in
theorem filterLines_every (hwrote : ∀ octets, P (.wrote octets)) (sink : Sink) (f : LineFilter)
    (lines : List Octets) : ∀ ev ∈ (filterLines sink f lines).1, P ev := by
  induction lines generalizing f with
  | nil => simp [filterLines]
  | cons line rest ih =>
    simp only [filterLines]
    split
    · intro ev hev
      rcases List.mem_cons.mp hev with rfl | hev
      · exact hwrote _
      · exact ih _ ev hev
    · exact ih _

theorem stream_every (hwrote : ∀ octets, P (.wrote octets)) (r : Runner) (w : World)
    {command : List Text} {env : Environment} {d : Option Text}
    (hattempted : P (.attempted ⟨command, d, env, .piped⟩)) (f : LineFilter) :
    (r.stream w command env d f).Every P := by
  refine (every_say _ _ _ _ hlogged).bind fun _ _ => ?_
  split
  · exact (announce_every hlogged _ _).bind fun _ _ => every_pure _
  · refine (checkDirectory_every _ _).bind fun _ _ => ?_
    refine (attempt_every w hattempted).bind fun found _ => ?_
    split
    · refine Every.bind (every_emitAll ?_) fun _ _ => every_pure _
      exact filterLines_every hwrote _ _ _
    · exact (reportMissing_every hlogged _ _).bind fun _ _ => every_pure _

end Every

end Runner

theorem Sink.writeAll_every {P : Event → Prop} (hwrote : ∀ octets, P (.wrote octets))
    (sink : Sink) (lines : List Text) : (sink.writeAll lines).Every P := by
  induction lines with
  | nil => exact every_pure _
  | cons line rest ih =>
    refine Every.bind ?_ fun _ _ => ih
    unfold write
    split
    · exact every_fail _
    · exact every_emit (hwrote _)

end BuildDispatch
