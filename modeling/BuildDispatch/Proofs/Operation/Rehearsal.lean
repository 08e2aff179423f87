import BuildDispatch.Proofs.Operation.Obstacles

/-!
# Rehearsals

A session that only announces commands runs nothing and asks nobody to install anything. What it
announces is what the same session would run in any world where the directory is there and every
command returns zero: event by event, an announcement stands in the place of each attempt. The two
sessions may find different libraries, since commands do not depend on the environment.

## Main statements

* `Workshop.Rehearses.execute`: every operation, rehearsed in one workshop and run in another.
* `Trace.announcements_eq`: what is announced, read from the log alone.
* `dispatch_rehearsed`: both for every dispatch of every session.
* `rehearsals_fail`: accepted entries that cannot even be rehearsed.
-/

namespace BuildDispatch

open Run

/-! ### Announcements -/

/-- What announcements begin with. -/
def announcementMark : Text := "[DRY RUN] Would run: "

def announcement (command : List Text) : Log.Record :=
  ⟨.info, Log.rootSource, announcementMark ++ commandText command⟩

/-- Actions, and what the program itself logs but for diagnosis. -/
def Event.isForetold : Event → Bool
  | .logged r => r.source = Log.rootSource ∧ r.level ≠ .debug
  | .attempted _ | .provisioned .. => true
  | _ => false

/-- What stands for an event in a rehearsal. -/
def Event.announced : Event → Event
  | .attempted a => .logged (announcement a.command)
  | ev => ev

/-- The text that a record announces, if it is an announcement. -/
def announcedText (r : Log.Record) : Option Text :=
  if r.source = Log.rootSource ∧ r.level = .info ∧ announcementMark <+: r.message then
    some (r.message.drop announcementMark.length)
  else none

theorem announcedText_announcement (command : List Text) :
    announcedText (announcement command) = some (commandText command) := by
  unfold announcedText announcement
  rw [if_pos ⟨rfl, rfl, List.prefix_append ..⟩, List.drop_left]

namespace Trace

/-- The texts that are announced, in order. -/
def announcements (t : Trace) : List Text := t.filterMap fun
  | .logged r => announcedText r
  | _ => none

theorem announcements_filter_isForetold (t : Trace) :
    announcements (t.filter Event.isForetold) = t.announcements := by
  refine filterMap_filter_of (fun ev hev => ?_) t
  cases ev with
  | logged r =>
    refine if_neg fun h => of_decide_eq_false hev ⟨h.1, ?_⟩
    rw [h.2.1]
    decide
  | _ => rfl

/-- Where the other events announce nothing, what is announced is what is attempted. -/
theorem announcements_map_announced {t : Trace} (h : t.announcements = []) :
    announcements (t.map Event.announced) = t.attempts.map fun a => commandText a.command := by
  have hnone := List.filterMap_eq_nil_iff.mp h
  rw [announcements, attempts, List.filterMap_map, List.map_filterMap]
  refine List.filterMap_congr fun ev hev => ?_
  cases ev with
  | attempted a => exact announcedText_announcement a.command
  | logged r => exact hnone _ hev
  | _ => rfl

/-- A trace that is the image of another announces what the other attempts. -/
theorem announcements_eq {t u : Trace}
    (h : t.filter Event.isForetold = (u.filter Event.isForetold).map Event.announced)
    (hu : u.announcements = []) :
    t.announcements = u.attempts.map fun a => commandText a.command := by
  rw [← announcements_filter_isForetold t, h, announcements_map_announced,
    attempts_filter fun _ => rfl]
  rw [announcements_filter_isForetold, hu]

end Trace

/-! ### Operations -/

namespace Workshop

/-- In the first workshop commands are announced, in the second they are run, and all of them
return zero. -/
structure Rehearses (s t : Workshop) : Prop where
  dryRun : s.runner.dryRun = true
  real : t.runner.dryRun = false
  logger : t.runner.logger = s.runner.logger
  toolchain : t.toolchain = s.toolchain
  directory : t.world.isDirectory (Path.ofText t.rootDir).text = true
  succeeds : ∀ command, t.world.Succeeds command

/-- An event of a real run, and what stands for it in a rehearsal. -/
abbrev Foretells (ev ev' : Event) : Prop := ev.announced = ev'

theorem info_foretold (l : Log.Logger) (message : Text) :
    (l.info message).Shows Event.isForetold [.logged ⟨.info, Log.rootSource, message⟩]
      (.ok ()) := by
  rw [Log.Logger.info, say_of_info_le (Int.le_refl _)]
  exact ⟨rfl, rfl⟩

section Rehearses

variable {s t : Workshop} (h : s.Rehearses t)

include h

theorem Rehearses.attempt (a : Attempt) :
    ∃ stdout, (attempt t.world a).Shows Event.isForetold [.attempted a]
      (.ok (some (0, stdout))) := by
  obtain ⟨stdout, houtcome⟩ := h.succeeds a.command
  have hfinished : t.world.finished a.command = .ok (some (0, stdout)) := by
    unfold World.finished
    rw [houtcome]
  refine ⟨stdout, ?_⟩
  rw [attempt_eq, hfinished]
  exact ⟨rfl, rfl⟩

theorem Rehearses.run (command : List Text) (env env' : Environment) (quiet : Bool) :
    (t.run command env quiet).Alongside Event.isForetold Foretells (fun a b => a = 0 ∧ b = 0)
      (s.run command env' quiet) := by
  obtain ⟨a, ha, ran⟩ : ∃ a : Attempt, a.command = command ∧
      (t.run command env quiet).Shows Event.isForetold [.attempted a] (.ok 0) := by
    let a : Attempt :=
      ⟨command, some t.rootDir, env, if quiet then .discarded else .inherited⟩
    obtain ⟨stdout, attempted⟩ := h.attempt a
    refine ⟨a, rfl, ?_⟩
    unfold Workshop.run Runner.run
    refine Shows.after ?_ (shows_debug rfl _)
    refine Shows.after ?_ (shows_debug rfl _)
    rw [if_neg (by simp [h.real]), checkDirectory_of_isDirectory h.directory]
    refine Shows.after ?_ (shows_pure _)
    exact attempted.before (shows_pure _)
  have announced : (s.run command env' quiet).Shows Event.isForetold
      [.logged (announcement command)] (.ok 0) := by
    unfold Workshop.run Runner.run
    refine Shows.after ?_ (shows_debug rfl _)
    refine Shows.after ?_ (shows_debug rfl _)
    rw [if_pos h.dryRun]
    exact (info_foretold ..).before (shows_pure _)
  subst ha
  exact ran.alongside announced (.cons rfl .nil) (.ok ⟨rfl, rfl⟩)

theorem Rehearses.stream (command : List Text) (env env' : Environment) (f : LineFilter) :
    (t.runner.stream t.world command env (some t.rootDir) f).Alongside Event.isForetold Foretells
      (fun a b => a.1 = 0 ∧ b.1 = 0)
      (s.runner.stream s.world command env' (some s.rootDir) f) := by
  obtain ⟨stdout, attempted⟩ := h.attempt ⟨command, some t.rootDir, env, .piped⟩
  have ran : (t.runner.stream t.world command env (some t.rootDir) f).Shows Event.isForetold
      [.attempted ⟨command, some t.rootDir, env, .piped⟩]
      (.ok (0, (Runner.filterLines t.runner.sink f (Text.cutAfter 0x0A stdout)).2)) := by
    unfold Runner.stream
    refine Shows.after ?_ (shows_debug rfl _)
    rw [if_neg (by simp [h.real]), checkDirectory_of_isDirectory h.directory]
    refine Shows.after ?_ (shows_pure _)
    refine attempted.before ?_
    have silent := every_emitAll
      (Runner.filterLines_every (P := fun ev => ev.isForetold = false) (fun _ => rfl)
        t.runner.sink f (Text.cutAfter 0x0A stdout))
    exact Shows.after (shows_pure _) (silent.shows rfl)
  have announced : (s.runner.stream s.world command env' (some s.rootDir) f).Shows
      Event.isForetold [.logged (announcement command)] (.ok (0, f)) := by
    unfold Runner.stream
    refine Shows.after ?_ (shows_debug rfl _)
    rw [if_pos h.dryRun]
    exact (info_foretold ..).before (shows_pure _)
  exact ran.alongside announced (.cons rfl .nil) (.ok ⟨rfl, rfl⟩)

/-- A tag makes no difference. -/
theorem Rehearses.runTagged (tag : Text) (command : List Text) (env env' : Environment) :
    (t.runTagged tag command env).Alongside Event.isForetold Foretells (· = ·)
      (s.runTagged tag command env') := by
  refine (alongside_self (every_ofResult _)).bind fun f _ heq => ?_
  obtain rfl := heq
  refine (h.stream command env env' f).bind fun found found' hzero => ?_
  refine Alongside.after_left ?_ (shows_debug rfl _)
  refine Alongside.after_right ?_ (shows_debug rfl _)
  exact alongside_pure (hzero.1.trans hzero.2.symm)

theorem Rehearses.forwardBy (e : Entry) {run run' : List Text → Run Int}
    (hrun : ∀ command,
      (run command).Alongside Event.isForetold Foretells (· = ·) (run' command)) :
    (t.forwardBy e run).Alongside Event.isForetold Foretells (· = ·) (s.forwardBy e run') :=
  forwardBy_alongside (R := Foretells) e h.toolchain h.logger (fun _ => rfl) hrun

theorem Rehearses.forward (e : Entry) (env env' : Environment) :
    (t.forward e env).Alongside Event.isForetold Foretells (· = ·) (s.forward e env') := by
  refine forward_alongside (R := Foretells) e h.toolchain h.logger (fun _ => rfl)
    (fun command => ?_) fun tag command => h.runTagged tag command env env'
  exact (h.run command env env' false).mono fun _ _ hzero => hzero.1.trans hzero.2.symm

/-- The check for a tool succeeds in both workshops, so neither asks for an installation. -/
theorem Rehearses.ensure (e : Entry) (tool : HelperTool) (env env' : Environment) :
    (t.ensure e tool env).Alongside Event.isForetold Foretells (fun a b => a = 0 ∧ b = 0)
      (s.ensure e tool env') := by
  have checked : (t.isAvailable e tool env).Alongside Event.isForetold Foretells
      (fun a b => a = true ∧ b = true) (s.isAvailable e tool env') := by
    unfold isAvailable
    rw [h.toolchain]
    refine (alongside_self (every_ofResult _)).bind fun command _ heq => ?_
    obtain rfl := heq
    refine Alongside.after_left ?_ (shows_debug rfl _)
    refine Alongside.after_right ?_ (shows_debug rfl _)
    refine (h.run command env env' true).bind fun a b hzero => alongside_pure ?_
    simp [hzero.1, hzero.2]
  refine checked.bind fun a b hfound => ?_
  obtain ⟨rfl, rfl⟩ := hfound
  refine Alongside.after_left ?_ (shows_debug rfl _)
  exact Alongside.after_right (alongside_pure ⟨rfl, rfl⟩) (shows_debug rfl _)

theorem Rehearses.helper (e : Entry) (tool : HelperTool) (env env' : Environment) :
    (t.helper e tool env).Alongside Event.isForetold Foretells (· = ·)
      (s.helper e tool env') := by
  refine (h.ensure e tool env env').bind fun a b hready => ?_
  obtain ⟨rfl, rfl⟩ := hready
  rw [if_neg (by simp), if_neg (by simp)]
  refine h.forwardBy e fun command => ?_
  exact (h.run command env env' false).mono fun _ _ hzero => hzero.1.trans hzero.2.symm

omit h in
/-- Writing is not foretold. -/
theorem info_unforetold (s : Workshop) (env : Environment) :
    (s.info env).events.filter Event.isForetold = [] := by
  have silent : (s.info env).Every fun ev => ev.isForetold = false :=
    (Sink.writeAll_every (fun _ => rfl) _ _).bind fun _ _ => every_pure _
  exact (silent.shows rfl).events

/-- Event by event, a rehearsal shows what stands for the events of the real run. -/
theorem Rehearses.execute (o : Operation) (env env' : Environment) :
    (s.execute o env').events.filter Event.isForetold =
      ((t.execute o env).events.filter Event.isForetold).map Event.announced := by
  cases o with
  | forward e => exact (alongside_eq_iff.mp (h.forward e env env')).1
  | helper e tool => exact (alongside_eq_iff.mp (h.helper e tool env env')).1
  | info e =>
    change (s.info env').events.filter _ = ((t.info env).events.filter _).map _
    rw [info_unforetold, info_unforetold]
    rfl

end Rehearses

end Workshop

/-! ### Every dispatch of every session -/

namespace Session

/-- The same session in a world where commands are really run. -/
def really (s : Session) (w : World) : Session :=
  { s with world := w, invocation := { s.invocation with dryRun := false } }

theorem foretold_perform (c : Setup) (s : Session) (o : Operation) :
    (s.perform c o).run.events.filter Event.isForetold =
      ((s.workshop c).execute o (s.environmentNow o)).events.filter Event.isForetold := by
  have hdebug : ∀ source message,
      Event.isForetold (.logged ⟨.debug, source, message⟩) = false := by
    simp [Event.isForetold]
  exact (perform_shows_of (fun _ => rfl) (fun _ _ => rfl) hdebug ⟨rfl, rfl⟩).events

theorem Regular.really {c : Setup} {i : Invocation} {s : Session} (h : s.Regular c i)
    (w : World) : (s.really w).Regular c { i with dryRun := false } where
  declared := h.declared
  library := h.library
  rootDir := h.rootDir
  toolchain := h.toolchain
  dryRun := rfl

theorem rehearses_really {c : Setup} {s : Session} (hdry : s.invocation.dryRun = true) {w : World}
    (hdir : w.isDirectory (Path.ofText s.invocation.rootDir.text).text = true)
    (hsucceeds : ∀ command, w.Succeeds command) :
    (s.workshop c).Rehearses ((s.really w).workshop c) where
  dryRun := hdry
  real := rfl
  logger := rfl
  toolchain := rfl
  directory := hdir
  succeeds := hsucceeds

end Session

/-- A dispatch that only announces attempts nothing, asks nobody, and comes to zero unless there is
an obstacle. It shows what the same dispatch would do where every command succeeds. -/
theorem dispatch_rehearsed {files : ConfigFiles} {directory : Text} {config : Configuration}
    (hload : files.load directory = .ok config) {c : Setup}
    (hc : c.catalogue = config.catalogue) (w : World) {i : Invocation} (hdry : i.dryRun = true)
    (history : List Session.Step) {name : Text} {e : Entry}
    (hname : config.catalogue.find? name = some e) :
    let s := ({ world := w, invocation := i } : Session).after c history
    let p := s.dispatch c name
    p.run.events.attempts = [] ∧ p.run.events.provisions = [] ∧
    (∃ o, Operation.ofEntry e = .ok o ∧
      (p.run.result = .ok 0 ↔
        ∀ failure, ¬ (s.workshop c).Obstacle e (s.environmentNow o) failure)) ∧
    ∀ w' : World, w'.isDirectory (Path.ofText i.rootDir.text).text = true →
      (∀ command, w'.Succeeds command) →
      let q := (s.really w').dispatch c name
      p.run.events.filter Event.isForetold =
        (q.run.events.filter Event.isForetold).map Event.announced ∧
      (q.run.events.announcements = [] →
        p.run.events.announcements = q.run.events.attempts.map fun a => commandText a.command) := by
  intro s p
  have regular : s.Regular c i := Session.regular_after_of_load hload hc w i history
  have dry : s.invocation.dryRun = true := regular.dryRun.trans hdry
  obtain ⟨o, kept, ho, hp⟩ : ∃ o kept, Operation.ofEntry e = .ok o ∧
      p = { s with instances := kept }.perform c o :=
    Session.exists_perform_of_load hload hc regular hname
  obtain ⟨result, performed, hzero⟩ : ∃ result, p.run.Shows Event.isAction [] result ∧
      (result = .ok 0 ↔ ∀ failure,
        ¬ (s.workshop c).Obstacle e (s.environmentNow o) failure) := by
    rw [hp]
    by_cases hclear : ∀ failure,
        ¬ (s.workshop c).Obstacle e (s.environmentNow o) failure
    · exact ⟨.ok 0, Session.perform_shows (Workshop.execute_shows_of_dryRun dry ho hclear),
        iff_of_true rfl hclear⟩
    · obtain ⟨failure, hobstacle⟩ := not_forall_not.mp hclear
      exact ⟨.error failure, Session.perform_shows (Workshop.execute_of_obstacle ho hobstacle),
        iff_of_false nofun hclear⟩
  refine ⟨performed.attempts_eq, performed.provisions_eq, ⟨o, ho, ?_⟩, ?_⟩
  · rw [performed.result]
    exact hzero
  intro w' hdir hsucceeds q
  obtain ⟨o', kept', ho', hq⟩ : ∃ o' kept', Operation.ofEntry e = .ok o' ∧
      q = { s.really w' with instances := kept' }.perform c o' :=
    Session.exists_perform_of_load hload hc (regular.really w') hname
  obtain rfl : o = o' := Except.ok.inj (ho.symm.trans ho')
  rw [← regular.rootDir] at hdir
  have rehearses := Session.rehearses_really (c := c) dry hdir hsucceeds
  have hforetold : p.run.events.filter Event.isForetold =
      (q.run.events.filter Event.isForetold).map Event.announced := by
    rw [hp, hq, Session.foretold_perform, Session.foretold_perform]
    exact rehearses.execute ..
  exact ⟨hforetold, Trace.announcements_eq hforetold⟩

/-- A machine where everything succeeds. -/
def readyMachine : World := { optMachine with outcome := fun _ => .exited 0 [] }

/-- An audit is rehearsed where the directory is missing and tools cannot be installed. -/
theorem audit_rehearsed : ∃ config, ConfigFiles.small.load "etc" = .ok config ∧
    let c : Setup := { catalogue := config.catalogue, logger := {},
                       provisioner := .asking fun _ _ => .error .interrupted }
    let i : Invocation := { config.invocation with dryRun := true }
    let s := ({ world := .nowhere, invocation := i } : Session).after c [.dispatch "build"]
    let p := s.dispatch c "audit"
    let q := (s.really readyMachine).dispatch c "audit"
    p.run.events.attempts = [] ∧
      p.run.events.announcements = q.run.events.attempts.map (fun a => commandText a.command) ∧
      p.run.events.announcements =
        ["cargo +nightly audit --version", "cargo +nightly audit"] := by
  have hload : ConfigFiles.small.load "etc" = .ok _ := rfl
  refine ⟨_, hload, ?_⟩
  intro c i s p q
  obtain ⟨hattempts, -, -, hreal⟩ := @dispatch_rehearsed _ _ _ hload c rfl .nowhere i rfl
    [.dispatch "build"] "audit" _ rfl
  have hannounced := (hreal readyMachine rfl fun _ => ⟨[], rfl⟩).2 rfl
  exact ⟨hattempts, hannounced, hannounced.trans rfl⟩

/-- A report on the environment. -/
def report : ConfigFiles := .withEntry "t" [(.str "kind", .str "info")]

/-- An operation with a name that looks like an announcement. -/
def impostor : ConfigFiles := .withEntry "[DRY RUN] Would run"
  [(.str "kind", .str "forward"), (.str "args", .list [.str "check"])]

/-- A session that only announces commands, on a machine where nothing is in place. -/
def Configuration.rehearsal (config : Configuration) (env : Environment) : Session where
  world := .nowhere
  invocation := { config.invocation with baseEnv := env, dryRun := true }

def Configuration.setup (config : Configuration) (sink : Sink) : Setup :=
  { catalogue := config.catalogue, logger := {}, sink }

/-- Neither the world nor the invocation matters to the long number for a channel. -/
theorem longChannel_unwritable : ∃ config, longChannel.load "etc" = .ok config ∧
    ∀ (sink : Sink) (w : World) (i : Invocation),
      (({ world := w, invocation := i } : Session).dispatch (config.setup sink) "t").run.result =
        .error (.unwritable .tooManyDigits) := by
  obtain ⟨config, e, hload, hfound, hkind, hlook⟩ : ∃ config e,
      longChannel.load "etc" = .ok config ∧ config.catalogue.find? "t" = some e ∧
      e.kind = .forward ∧ e.channel.heap.look e.channel.place = .int manyDigits :=
    ⟨_, _, rfl, rfl, rfl, rfl⟩
  have hselector := Entry.selector_of_manyDigits hlook le_natAbs_manyDigits
  have hobstacle : ∀ s env, Workshop.Obstacle s e env (.unwritable .tooManyDigits) :=
    fun _ _ => .channel (by simp [hkind]) hselector
  refine ⟨config, hload, fun sink w i => ?_⟩
  obtain ⟨o, kept, ho, hperformed⟩ := Session.exists_perform_of_load hload
    (c := config.setup sink) rfl (Session.regular_start _ w i) hfound
  rw [hperformed]
  exact (Session.perform_shows (Workshop.execute_of_obstacle ho (hobstacle _ _))).result

/-- The surrogate for a tag and the long number for a channel fail where commands are only
announced, too, and so does a report on a variable that has no form in UTF-8. The impostor is
announced twice and run once. -/
theorem rehearsals_fail :
    (∃ config, surrogateTag.load "etc" = .ok config ∧
      ((config.rehearsal .empty).dispatch (config.setup .text) "t").run.result ≠ .ok 0) ∧
    (∃ config, longChannel.load "etc" = .ok config ∧
      ((config.rehearsal .empty).dispatch (config.setup .text) "t").run.result ≠ .ok 0) ∧
    (∃ config, report.load "etc" = .ok config ∧
      ((config.rehearsal (.ofList [("X", loneSurrogate)])).dispatch
        (config.setup .textOverOctets) "t").run.result ≠ .ok 0) ∧
    ∃ config, impostor.load "etc" = .ok config ∧
      let s := config.rehearsal .empty
      let p := s.dispatch (config.setup .text) "[DRY RUN] Would run"
      let q := (s.really readyMachine).dispatch (config.setup .text) "[DRY RUN] Would run"
      p.run.events.announcements = ["cargo check", "cargo check"] ∧
        q.run.events.attempts.map (fun a => commandText a.command) = ["cargo check"] := by
  refine ⟨⟨_, rfl, nofun⟩, ?_, ⟨_, rfl, nofun⟩, ⟨_, rfl, rfl, rfl⟩⟩
  obtain ⟨config, hload, hresult⟩ := longChannel_unwritable
  have hrehearsed : ((config.rehearsal .empty).dispatch (config.setup .text) "t").run.result =
      .error (.unwritable .tooManyDigits) := hresult .text .nowhere _
  refine ⟨config, hload, ?_⟩
  rw [hrehearsed]
  exact nofun

end BuildDispatch
