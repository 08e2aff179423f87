import BuildDispatch.Proofs.Operation.Rehearsal

/-!
# Missing directories and missing commands

To whoever starts a command, a missing directory looks like a missing command. So the root directory
is looked for wherever a command would be started, also where a tool is only checked for, and what
is reported as a missing command is one. A report of date and environment starts nothing, and it
does not depend on directories at all.

## Main statements

* `Workshop.forward_lost`, `Workshop.helper_lost`: without its directory an operation has no effect.
* `Course.exists_last`, `Workshop.execute_last`: an operation ends as its last action ends.
* `dispatch_located`: both for every dispatch of every session.
* `directories_mistaken`: directories that are missing but not missed, and the other way round.
-/

namespace BuildDispatch

open Run

/-- Attempts, calls for somebody else, and output. -/
def Event.isEffect : Event → Bool
  | .attempted _ | .provisioned .. | .wrote _ => true
  | _ => false

/-! ### Without the directory -/

namespace Workshop

section Missing

variable {s : Workshop} {e : Entry} {env : Environment} {keep : Event → Bool}
  (hkeep : ∀ r, keep (.logged r) = false)
  (hreal : s.runner.dryRun = false)
  (hdir : s.world.isDirectory (Path.ofText s.rootDir).text = false)
  {selector : List Text} (hselector : e.selector = .ok selector)

include hkeep hreal hdir hselector

theorem forward_lost (hkind : e.kind = .forward)
    (hclear : ∀ failure, ¬ s.Obstacle e env failure) :
    (s.forward e env).Shows keep [] (.error (.missingDirectory s.rootDir)) := by
  have hcommand := Entry.command_of_selector hselector s.toolchain e.args
  rcases forward_cases_of_clear hkind hselector hclear with hplain | ⟨tag, f, hf, htagged⟩
  · rw [hplain]
    exact forwardBy_shows _ hkeep hcommand (Runner.run_shows_of_missing hkeep hreal hdir ..)
  · rw [htagged]
    refine forwardBy_shows _ hkeep hcommand ?_
    exact runTagged_shows hkeep hf (Runner.stream_shows_of_missing hkeep hreal hdir ..)

/-- The check fails already, and no tool is installed for that. -/
theorem helper_lost (tool : HelperTool) :
    (s.helper e tool env).Shows keep [] (.error (.missingDirectory s.rootDir)) := by
  have checked : (s.isAvailable e tool env).Shows keep []
      (.error (.missingDirectory s.rootDir)) := by
    unfold isAvailable
    rw [Entry.command_of_selector hselector]
    refine Shows.after ?_ (shows_ofResult _)
    refine Shows.after ?_ (shows_say _ _ _ _ hkeep)
    exact (Runner.run_shows_of_missing hkeep hreal hdir ..).bind_error
  -- A check that fails is no check that finds nothing: what comes after it is not reached.
  exact checked.bind_error.bind_error

end Missing

end Workshop

/-! ### The last action -/

/-- Whatever course is taken, it ends as its last stage does. -/
theorem Course.exists_last {check install main : Stage} {actions : Trace}
    {result : Except Failure Int} (h : Course check install main actions result) :
    ∃ front stage, actions = front ++ [stage.action] ∧ result = stage.ending ∧
      (stage = check ∨ stage = install ∨ stage = main) := by
  cases h with
  | unchecked hcheck => exact ⟨[], check, rfl, hcheck.symm, .inl rfl⟩
  | present => exact ⟨[check.action], main, rfl, rfl, .inr (.inr rfl)⟩
  | interrupted _ _ hinstall =>
    exact ⟨[check.action], install, rfl, hinstall.symm, .inr (.inl rfl)⟩
  | uninstalled _ _ hinstall =>
    exact ⟨[check.action], install, rfl, hinstall.symm, .inr (.inl rfl)⟩
  | installed => exact ⟨[check.action, install.action], main, rfl, rfl, .inr (.inr rfl)⟩

namespace Workshop

/-- How an operation ends whose last action is this one. -/
inductive Ends (s : Workshop) (e : Entry) (env : Environment) : Event → Except Failure Int → Prop
  | attempted (a : Attempt) : Ends s e env (.attempted a) (s.world.statusOf a.command)
  | provisioned {install : HelperTool → Environment → Except Failure Int} {tool : HelperTool}
    (hasked : s.provisioner = .asking install) (htool : e.helper = some tool) :
    Ends s e env (.provisioned tool.name env) (install tool env)

variable {s : Workshop} {e : Entry} {env : Environment} {o : Operation}

theorem installStage_ends {tool : HelperTool} (htool : e.helper = some tool) :
    s.Ends e env (s.installStage tool env).action (s.installStage tool env).ending := by
  unfold installStage
  cases hself : s.provisioner with
  | toolchain => exact .attempted _
  | asking install => exact .provisioned hself htool

section Last

variable (hreal : s.runner.dryRun = false)
  (hdir : s.world.isDirectory (Path.ofText s.rootDir).text = true)
  {selector : List Text} (hselector : e.selector = .ok selector)

include hreal hdir hselector

theorem forward_last (hkind : e.kind = .forward)
    (hclear : ∀ failure, ¬ s.Obstacle e env failure) :
    ∃ front ev result, (s.forward e env).Shows Event.isAction (front ++ [ev]) result ∧
      s.Ends e env ev result := by
  have hcommand := Entry.command_of_selector hselector s.toolchain e.args
  rcases forward_cases_of_clear hkind hselector hclear with hplain | ⟨tag, f, hf, htagged⟩
  · rw [hplain]
    have ran := run_shows hreal hdir (selector ++ e.args) env false
    exact ⟨[], _, _, forwardBy_shows _ (fun _ => rfl) hcommand ran, .attempted _⟩
  · rw [htagged]
    have streamed := Runner.stream_shows hreal hdir s.toolchain (selector ++ e.args) env f
    have tagged := runTagged_shows (fun _ => rfl) hf streamed
    rw [Runner.map_streamed_finished] at tagged
    exact ⟨[], _, _, forwardBy_shows _ (fun _ => rfl) hcommand tagged, .attempted _⟩

theorem helper_last {tool : HelperTool} (htool : e.helper = some tool) :
    ∃ front ev result, (s.helper e tool env).Shows Event.isAction (front ++ [ev]) result ∧
      s.Ends e env ev result := by
  obtain ⟨actions, result, hcourse⟩ := Course.exists (s.checkStage selector tool env)
    (s.installStage tool env) (s.mainStage selector e env)
  have shows := helper_shows hreal hdir hselector hcourse
  obtain ⟨front, stage, rfl, rfl, hstage⟩ := hcourse.exists_last
  refine ⟨front, stage.action, stage.ending, shows, ?_⟩
  rcases hstage with rfl | rfl | rfl
  · exact .attempted _
  · exact installStage_ends htool
  · exact .attempted _

end Last

/-- Where nothing stands in its way an operation that runs commands ends as its last action does. -/
theorem execute_last (ho : Operation.ofEntry e = .ok o) (hkind : e.kind ≠ .info)
    (hreal : s.runner.dryRun = false)
    (hdir : s.world.isDirectory (Path.ofText s.rootDir).text = true)
    (hclear : ∀ failure, ¬ s.Obstacle e env failure) :
    ∃ front ev result, (s.execute o env).Shows Event.isAction (front ++ [ev]) result ∧
      s.Ends e env ev result := by
  obtain ⟨selector, hselector⟩ := exists_selector_of_clear hkind hclear
  rcases operation_cases ho hkind with ⟨hforward, rfl⟩ | ⟨tool, -, htool, rfl⟩
  · exact forward_last hreal hdir hselector hforward hclear
  · exact helper_last hreal hdir hselector htool

/-- With an obstacle, in a dry run and for a report there is no action; all else has a last one. -/
theorem execute_cases (ho : Operation.ofEntry e = .ok o)
    (hdir : s.world.isDirectory (Path.ofText s.rootDir).text = true) :
    (∃ failure, s.Obstacle e env failure ∧ (s.execute o env).result = .error failure) ∨
      (s.execute o env).result = .ok 0 ∨
      ∃ front ev, (s.execute o env).Shows Event.isAction (front ++ [ev]) (s.execute o env).result ∧
        s.Ends e env ev (s.execute o env).result := by
  by_cases hclear : ∀ failure, ¬ s.Obstacle e env failure
  · right
    cases hdry : s.runner.dryRun with
    | true => exact .inl (execute_shows_of_dryRun hdry ho hclear).result
    | false =>
      by_cases hkind : e.kind = .info
      · obtain rfl := eq_info_of_ofEntry ho hkind
        exact .inl (info_shows_of_clear hkind hclear).result
      · right
        obtain ⟨front, ev, result, shows, ends⟩ := execute_last ho hkind hdry hdir hclear
        obtain rfl := shows.result
        exact ⟨front, ev, shows, ends⟩
  · obtain ⟨failure, hobstacle⟩ := not_forall_not.mp hclear
    exact .inl ⟨failure, hobstacle, (execute_of_obstacle ho hobstacle).result⟩

/-- The last action says that a command was not found: a program is missing, or what was run or
asked says so itself. -/
inductive NotFound (s : Workshop) (e : Entry) (env : Environment) : Event → Prop
  | missing {a : Attempt} (h : s.world.outcome a.command = .missing) :
    NotFound s e env (.attempted a)
  | returned {a : Attempt} {stdout : Octets}
    (h : s.world.outcome a.command = .exited commandNotFound stdout) :
    NotFound s e env (.attempted a)
  | provisioner {install : HelperTool → Environment → Except Failure Int} {tool : HelperTool}
    (hasked : s.provisioner = .asking install) (htool : e.helper = some tool)
    (h : install tool env = .ok commandNotFound) : NotFound s e env (.provisioned tool.name env)

theorem Ends.notFound {ev : Event} {result : Except Failure Int} (h : s.Ends e env ev result)
    (hresult : result = .ok commandNotFound) : s.NotFound e env ev := by
  cases h with
  | attempted a =>
    unfold World.statusOf at hresult
    cases houtcome : s.world.outcome a.command with
    | exited status stdout =>
      rw [houtcome] at hresult
      obtain rfl := Except.ok.inj hresult
      exact .returned houtcome
    | missing => exact .missing houtcome
    | denied => simp [houtcome] at hresult
    | interrupted => simp [houtcome] at hresult
    | failed cause => simp [houtcome] at hresult
  | provisioned hasked htool => exact .provisioner hasked htool hresult

/-- An attempt does not say that there is no directory. -/
theorem Ends.provisioner {ev : Event} {result : Except Failure Int} (h : s.Ends e env ev result)
    {path : Text} (hresult : result = .error (.missingDirectory path)) :
    ∃ install tool, s.provisioner = .asking install ∧ e.helper = some tool ∧
      ev = .provisioned tool.name env ∧ install tool env = .error (.missingDirectory path) := by
  cases h with
  | attempted a =>
    unfold World.statusOf at hresult
    cases houtcome : s.world.outcome a.command <;> simp [houtcome] at hresult
  | provisioned hasked htool => exact ⟨_, _, hasked, htool, rfl, hresult⟩

/-! ### Directories told from commands -/

/-- A run of the operation of the entry `e` tells a missing directory from a missing command. -/
structure Located (s : Workshop) (e : Entry) (env : Environment) (r : Run Int) : Prop where
  /-- If the root directory is none, there is no effect, and the directory is what is missing,
  unless an obstacle comes before. -/
  lost : e.kind ≠ .info → s.runner.dryRun = false →
    s.world.isDirectory (Path.ofText s.rootDir).text = false →
    ((∀ failure, ¬ s.Obstacle e env failure) →
      r.Shows Event.isEffect [] (.error (.missingDirectory s.rootDir))) ∧
    ∀ failure, s.Obstacle e env failure → r.Shows Event.isEffect [] (.error failure)
  notFound : s.world.isDirectory (Path.ofText s.rootDir).text = true →
    r.result = .ok commandNotFound →
    ∃ front ev, r.Shows Event.isAction (front ++ [ev]) r.result ∧ s.NotFound e env ev
  /-- A root directory that is one can only be missed by somebody else. -/
  missed : s.world.isDirectory (Path.ofText s.rootDir).text = true →
    ∀ path, r.result = .error (.missingDirectory path) →
    ∃ front install tool, s.provisioner = .asking install ∧ e.helper = some tool ∧
      r.Shows Event.isAction (front ++ [.provisioned tool.name env]) r.result ∧
      install tool env = .error (.missingDirectory path)
  info : e.kind = .info →
    ((∀ failure, ¬ s.Obstacle e env failure) → r.Shows Event.isAction [] (.ok 0)) ∧
    ∀ failure, s.Obstacle e env failure → r.Shows Event.isAction [] (.error failure)

theorem execute_located (ho : Operation.ofEntry e = .ok o) (env : Environment) :
    s.Located e env (s.execute o env) where
  lost hkind hreal hdir := by
    rcases operation_cases ho hkind with ⟨hforward, rfl⟩ | ⟨tool, hhelper, -, rfl⟩
    · refine ⟨fun hclear => ?_, fun failure => forward_of_obstacle (fun _ => rfl) hforward⟩
      obtain ⟨selector, hselector⟩ := exists_selector_of_clear hkind hclear
      exact forward_lost (fun _ => rfl) hreal hdir hselector hforward hclear
    · refine ⟨fun hclear => ?_, fun failure => helper_of_obstacle hhelper tool⟩
      obtain ⟨selector, hselector⟩ := exists_selector_of_clear hkind hclear
      exact helper_lost (fun _ => rfl) hreal hdir hselector tool
  notFound hdir hresult := by
    rcases execute_cases ho hdir with ⟨failure, -, hfailure⟩ | hzero | ⟨front, ev, shows, ends⟩
    · cases hfailure.symm.trans hresult
    · cases hzero.symm.trans hresult
    · exact ⟨front, ev, shows, ends.notFound hresult⟩
  missed hdir path hresult := by
    rcases execute_cases ho hdir with ⟨failure, hobstacle, hfailure⟩ | hzero |
      ⟨front, ev, shows, ends⟩
    · obtain rfl := Except.error.inj (hfailure.symm.trans hresult)
      cases hobstacle.isRefusal
    · cases hzero.symm.trans hresult
    · obtain ⟨install, tool, hasked, htool, rfl, hinstall⟩ := ends.provisioner hresult
      exact ⟨front, install, tool, hasked, htool, shows, hinstall⟩
  info hkind := by
    obtain rfl := eq_info_of_ofEntry ho hkind
    exact ⟨info_shows_of_clear hkind, fun failure => info_of_obstacle hkind⟩

end Workshop

/-! ### Every dispatch of every session -/

theorem LibrarySettings.resolve_elsewhere (settings : LibrarySettings) (l : Log.Logger) (w : World)
    (useSystem : Bool) (isDirectory : Text → Bool) :
    settings.resolve l { w with isDirectory } useSystem = settings.resolve l w useSystem := by
  unfold resolve
  rw [findLibraryDir_eq, findLibraryDir_eq]
  rfl

namespace Session

variable {c : Setup} {s : Session} {o : Operation} {e : Entry}

/-- Neither the lookup of the library nor what is logged about it has an effect. -/
theorem perform_located (ho : Operation.ofEntry e = .ok o) :
    (s.workshop c).Located e (s.environmentNow o) (s.perform c o).run := by
  have located := (s.workshop c).execute_located ho (s.environmentNow o)
  have hresult := s.result_perform c o
  have acts {t : Trace} {result : Except Failure Int}
      (h : ((s.workshop c).execute o (s.environmentNow o)).Shows Event.isEffect t result) :
      (s.perform c o).run.Shows Event.isEffect t result :=
    perform_shows_of (fun _ => rfl) (fun _ _ => rfl) (fun _ _ => rfl) h
  refine ⟨fun hkind hreal hdir => ?_, fun hdir hcode => ?_, fun hdir path hpath => ?_,
    fun hkind => ?_⟩
  · obtain ⟨hclear, hobstacle⟩ := located.lost hkind hreal hdir
    exact ⟨fun h => acts (hclear h), fun failure h => acts (hobstacle failure h)⟩
  · rw [hresult] at hcode ⊢
    obtain ⟨front, ev, shows, hev⟩ := located.notFound hdir hcode
    exact ⟨front, ev, perform_shows shows, hev⟩
  · rw [hresult] at hpath ⊢
    obtain ⟨front, install, tool, hasked, htool, shows, hinstall⟩ := located.missed hdir path hpath
    exact ⟨front, install, tool, hasked, htool, perform_shows shows, hinstall⟩
  · obtain ⟨hclear, hobstacle⟩ := located.info hkind
    exact ⟨fun h => perform_shows (hclear h), fun failure h => perform_shows (hobstacle failure h)⟩

/-- A report is the same whatever directories there are. -/
theorem perform_info_elsewhere (c : Setup) (s : Session) (e : Entry) (kept : Bindings Instance)
    (isDirectory : Text → Bool) :
    (({ s with world := { s.world with isDirectory }, instances := kept } : Session).perform c
      (.info e)).run = (s.perform c (.info e)).run := by
  have hprelude : ({ s with world := { s.world with isDirectory }, instances := kept } :
      Session).prelude c (.info e) = s.prelude c (.info e) := by
    unfold prelude
    rw [LibrarySettings.resolve_elsewhere]
    rfl
  rw [perform_run, perform_run, hprelude]
  rfl

end Session

/-- Every dispatch tells a missing directory from a missing command, and a report does not depend on
the directories that there are. -/
theorem dispatch_located {files : ConfigFiles} {directory : Text} {config : Configuration}
    (hload : files.load directory = .ok config) {c : Setup}
    (hc : c.catalogue = config.catalogue) (w : World) (i : Invocation)
    (history : List Session.Step) {name : Text} {e : Entry}
    (hname : config.catalogue.find? name = some e) :
    let s := ({ world := w, invocation := i } : Session).after c history
    let p := s.dispatch c name
    ∃ o, Operation.ofEntry e = .ok o ∧
      (s.workshop c).Located e (s.environmentNow o) p.run ∧
      (e.kind = .info → ∀ isDirectory : Text → Bool,
        (({ s with world := { s.world with isDirectory } } : Session).dispatch c name).run =
          p.run) := by
  intro s p
  have regular : s.Regular c i := Session.regular_after_of_load hload hc w i history
  obtain ⟨o, kept, ho, hp⟩ : ∃ o kept, Operation.ofEntry e = .ok o ∧
      p = { s with instances := kept }.perform c o :=
    Session.exists_perform_of_load hload hc regular hname
  refine ⟨o, ho, ?_, fun hkind isDirectory => ?_⟩
  · rw [hp]
    exact Session.perform_located (s := { s with instances := kept }) ho
  · let t : Session := { s with world := { s.world with isDirectory } }
    have ht : t.Regular c i := regular.congr rfl rfl
    obtain ⟨o', kept', ho', hq⟩ := Session.exists_perform_of_load hload hc ht hname
    obtain rfl : o = o' := Except.ok.inj (ho.symm.trans ho')
    obtain rfl := Workshop.eq_info_of_ofEntry ho hkind
    rw [hq, hp]
    exact Session.perform_info_elsewhere c { s with instances := kept } e kept' isDirectory

/-- An audit where there is no directory, and one where there is nothing to run in it. -/
theorem audits_located : ∃ config e, ConfigFiles.small.load "etc" = .ok config ∧
    config.catalogue.find? "audit" = some e ∧
    let c : Setup := { catalogue := config.catalogue, logger := {} }
    let start : Session := { world := .nowhere, invocation := config.invocation }
    let s := start.after c [.dispatch "audit", .setWorld optMachine]
    (start.dispatch c "audit").run.Shows Event.isEffect [] (.error (.missingDirectory "/work")) ∧
    ∃ env front ev, (s.dispatch c "audit").run.Shows Event.isAction (front ++ [ev]) (.ok 127) ∧
      (s.workshop c).NotFound e env ev := by
  have hload : ConfigFiles.small.load "etc" = .ok _ := rfl
  refine ⟨_, _, hload, rfl, ?_⟩
  intro c start s
  obtain ⟨o, -, lost, -⟩ := @dispatch_located _ _ _ hload c rfl start.world start.invocation []
    "audit" _ rfl
  obtain ⟨o', -, located, -⟩ := @dispatch_located _ _ _ hload c rfl start.world start.invocation
    [.dispatch "audit", .setWorld optMachine] "audit" _ rfl
  obtain ⟨front, ev, shows, hev⟩ := located.notFound rfl rfl
  refine ⟨(lost.lost (by decide) rfl rfl).1 fun failure hobstacle => ?_, _, front, ev, shows, hev⟩
  cases hobstacle with
  | channel _ hselector => cases hselector
  | filter hforward => cases hforward
  | tag hforward => cases hforward
  | report hinfo => cases hinfo

/-- Without a directory the surrogate for a tag and the long number for a channel are refused before
it is missed. With the directory somebody else may say that it is missing, and a report on a
variable that has no form in UTF-8 fails. -/
theorem directories_mistaken :
    (∃ config e tag, surrogateTag.load "etc" = .ok config ∧
      config.catalogue.find? "t" = some e ∧ e.outputFilter.view = .str tag ∧
      let s : Session := { world := .nowhere, invocation := config.invocation }
      s.invocation.dryRun = false ∧ s.world.isDirectory s.invocation.rootDir.text = false ∧
        (s.dispatch (config.setup .text) "t").run.result ≠ .error (.missingDirectory "/work")) ∧
    (∃ config, longChannel.load "etc" = .ok config ∧
      let s : Session := { world := .nowhere, invocation := config.invocation }
      (s.dispatch (config.setup .text) "t").run.result ≠ .error (.missingDirectory "/work")) ∧
    (∃ config, ConfigFiles.small.load "etc" = .ok config ∧
      let s : Session := { world := optMachine, invocation := config.invocation }
      s.world.isDirectory s.invocation.rootDir.text = true ∧
        let c := { config.setup .text with
          provisioner := .asking fun _ _ => .error (.missingDirectory "/work") }
        (s.dispatch c "audit").run.result = .error (.missingDirectory "/work")) ∧
    ∃ config, report.load "etc" = .ok config ∧
      let i := { config.invocation with baseEnv := .ofList [("X", loneSurrogate)] }
      let s : Session := { world := optMachine, invocation := i }
      (s.dispatch (config.setup .textOverOctets) "t").run.result ≠ .ok 0 := by
  refine ⟨⟨_, _, _, rfl, rfl, rfl, rfl, rfl, nofun⟩, ?_, ⟨_, rfl, rfl, rfl⟩, ⟨_, rfl, nofun⟩⟩
  obtain ⟨config, hload, hresult⟩ := longChannel_unwritable
  refine ⟨config, hload, ?_⟩
  intro s
  rw [hresult]
  exact nofun

end BuildDispatch
