import BuildDispatch.Operation.Execute
import BuildDispatch.Proofs.Command.Runner
import BuildDispatch.Proofs.Config.Entry

/-!
# The helper protocol

A helper operation has three stages: it checks for its tool, it has the tool installed if the check
fails, and it runs its own command. `Course` is the protocol itself, over stages of which nothing
is known but what they attempt and how that ends; the theorems say that every helper operation
takes exactly this course.

## Main statements

* `Course.exists`: whatever the stages come to, there is a course to take.
* `Workshop.helper_shows`: a helper operation follows the course of its stages.
* `execute_helper_shows_iff`: the same for every helper operation of a loaded configuration.
* `longAudit_unchecked`: a helper operation that takes no course.
-/

namespace BuildDispatch

open Run

/-! ### The protocol -/

/-- One stage of the protocol: what is attempted, and how the attempt ends. -/
structure Stage where
  action : Event
  ending : Except Failure Int

/-- What is attempted when the three stages follow each other, and with which result. -/
inductive Course (check install main : Stage) : Trace → Except Failure Int → Prop
  | unchecked {failure : Failure} (hcheck : check.ending = .error failure) :
    Course check install main [check.action] (.error failure)
  | present (hcheck : check.ending = .ok 0) :
    Course check install main [check.action, main.action] main.ending
  | interrupted {status : Int} {failure : Failure} (hcheck : check.ending = .ok status)
    (habsent : status ≠ 0) (hinstall : install.ending = .error failure) :
    Course check install main [check.action, install.action] (.error failure)
  | uninstalled {status code : Int} (hcheck : check.ending = .ok status) (habsent : status ≠ 0)
    (hinstall : install.ending = .ok code) (hcode : code ≠ 0) :
    Course check install main [check.action, install.action] (.ok code)
  | installed {status : Int} (hcheck : check.ending = .ok status) (habsent : status ≠ 0)
    (hinstall : install.ending = .ok 0) :
    Course check install main [check.action, install.action, main.action] main.ending

theorem Course.exists (check install main : Stage) :
    ∃ actions result, Course check install main actions result := by
  cases hcheck : check.ending with
  | error failure => exact ⟨_, _, .unchecked hcheck⟩
  | ok status =>
    by_cases hstatus : status = 0
    · exact ⟨_, _, .present (hstatus ▸ hcheck)⟩
    · cases hinstall : install.ending with
      | error failure => exact ⟨_, _, .interrupted hcheck hstatus hinstall⟩
      | ok code =>
        by_cases hcode : code = 0
        · exact ⟨_, _, .installed hcheck hstatus (hcode ▸ hinstall)⟩
        · exact ⟨_, _, .uninstalled hcheck hstatus hinstall hcode⟩

/-! ### The stages of an operation -/

/-- The word that selects the channel of an entry, if it has one. -/
def Entry.selector (e : Entry) : Written (List Text) :=
  if e.channel.isNothing then .ok []
  else e.channel.text.map fun channel => ["+" ++ channel]

theorem Entry.command_eq (e : Entry) (toolchain : Text) (args : List Text) :
    e.command toolchain args =
      (e.selector.map fun selector => toolchain :: (selector ++ args)).mapError .unwritable := by
  unfold Entry.command Entry.selector
  split
  · rfl
  · cases e.channel.text with
    | error cause => rfl
    | ok channel => rfl

theorem Entry.selector_of_manyDigits {e : Entry} {n : Int}
    (hlook : e.channel.heap.look e.channel.place = .int n) (hn : 10 ^ digitLimit ≤ n.natAbs) :
    e.selector = .error .tooManyDigits := by
  have hsome : e.channel.isNothing = false := by
    have hpos : 0 < 10 ^ digitLimit := Nat.pow_pos (by decide)
    have hne : n ≠ 0 := by omega
    simp [Value.isNothing, Value.view, hlook, Shape.onParts, Shape.isNothing, hne]
  unfold Entry.selector
  rw [hsome, Value.text_of_int hlook, intText_eq_error_iff.mpr hn]
  rfl

namespace Workshop

/-- A command of the toolchain, run in the root directory. -/
def stage (s : Workshop) (args : List Text) (env : Environment) (routing : Routing) : Stage where
  action := .attempted ⟨s.toolchain :: args, some s.rootDir, env, routing⟩
  ending := s.world.statusOf (s.toolchain :: args)

def checkStage (s : Workshop) (selector : List Text) (tool : HelperTool) (env : Environment) :
    Stage :=
  s.stage (selector ++ tool.checkArgs) env .discarded

/-- The installation, by the toolchain without any channel or by somebody else. -/
def installStage (s : Workshop) (tool : HelperTool) (env : Environment) : Stage :=
  match s.provisioner with
  | .toolchain => s.stage tool.installArgs env .inherited
  | .asking install => ⟨.provisioned tool.name env, install tool env⟩

def mainStage (s : Workshop) (selector : List Text) (e : Entry) (env : Environment) : Stage :=
  s.stage (selector ++ e.args) env .inherited

section Stages

variable {s : Workshop} (hreal : s.runner.dryRun = false)
  (hdir : s.world.isDirectory (Path.ofText s.rootDir).text = true)

include hreal hdir

theorem run_shows (args : List Text) (env : Environment) (quiet : Bool) :
    (s.run (s.toolchain :: args) env quiet).Shows Event.isAction
      [(s.stage args env (if quiet then .discarded else .inherited)).action]
      (s.world.statusOf (s.toolchain :: args)) :=
  Runner.run_shows hreal hdir _ _ _ _

theorem provision_shows (tool : HelperTool) (env : Environment) :
    (s.provision tool env).Shows Event.isAction [(s.installStage tool env).action]
      (s.installStage tool env).ending := by
  unfold provision installStage
  cases s.provisioner with
  | asking install => exact (shows_emit rfl).bind_ok (shows_ofResult _)
  | toolchain =>
    refine Shows.after ?_ (say_shows ..)
    refine (run_shows hreal hdir tool.installArgs env false).bind_same fun status => ?_
    split
    · exact Shows.after (shows_pure _) (say_shows ..)
    · exact Shows.after (shows_pure _) (say_shows ..)

omit hreal hdir in
theorem judge_shows {keep : Event → Bool} (hkeep : ∀ r, keep (.logged r) = false) (name : Text)
    (status : Int) : (s.judge name status).Shows keep [] (.ok ()) := by
  unfold judge
  split
  · exact shows_say _ _ _ _ hkeep
  · exact shows_pure _

variable {e : Entry} {selector : List Text} (hselector : e.selector = .ok selector)

include hselector

theorem isAvailable_shows (tool : HelperTool) (env : Environment) :
    (s.isAvailable e tool env).Shows Event.isAction [(s.checkStage selector tool env).action]
      ((s.checkStage selector tool env).ending.map (· == 0)) := by
  unfold isAvailable
  rw [Entry.command_eq, hselector]
  refine Shows.after ?_ (shows_ofResult _)
  refine Shows.after ?_ (say_shows ..)
  exact (run_shows hreal hdir _ env true).bind_map fun status => shows_pure _

/-- Where the check passes there is nothing to install. -/
theorem ensure_shows_of_present {tool : HelperTool} {env : Environment}
    (hcheck : (s.checkStage selector tool env).ending = .ok 0) :
    (s.ensure e tool env).Shows Event.isAction [(s.checkStage selector tool env).action]
      (.ok 0) := by
  have checked := isAvailable_shows hreal hdir hselector tool env
  rw [hcheck] at checked
  exact checked.before (Shows.after (shows_pure _) (say_shows ..))

theorem ensure_shows_of_absent {tool : HelperTool} {env : Environment} {status : Int}
    (hcheck : (s.checkStage selector tool env).ending = .ok status) (habsent : status ≠ 0) :
    (s.ensure e tool env).Shows Event.isAction
      [(s.checkStage selector tool env).action, (s.installStage tool env).action]
      (s.installStage tool env).ending := by
  have checked := isAvailable_shows hreal hdir hselector tool env
  rw [hcheck, Except.map, beq_eq_false_iff_ne.mpr habsent] at checked
  exact checked.bind_ok (Shows.after (provision_shows hreal hdir tool env) (say_shows ..))

theorem ensure_shows_of_error {tool : HelperTool} {env : Environment} {failure : Failure}
    (hcheck : (s.checkStage selector tool env).ending = .error failure) :
    (s.ensure e tool env).Shows Event.isAction [(s.checkStage selector tool env).action]
      (.error failure) := by
  have checked := isAvailable_shows hreal hdir hselector tool env
  rw [hcheck] at checked
  exact checked.bind_error

/-- Once the tool is there the command of the entry is all that is left to do. -/
theorem helper_shows_of_ready {tool : HelperTool} {env : Environment} {actions : Trace}
    (hready : (s.ensure e tool env).Shows Event.isAction actions (.ok 0)) :
    (s.helper e tool env).Shows Event.isAction
      (actions ++ [(s.mainStage selector e env).action]) (s.mainStage selector e env).ending := by
  refine hready.bind_ok ?_
  rw [if_neg (by simp), Entry.command_eq, hselector]
  refine Shows.after ?_ (shows_ofResult _)
  refine Shows.after ?_ (say_shows ..)
  refine (run_shows hreal hdir (selector ++ e.args) env false).bind_same fun status => ?_
  exact Shows.after (shows_pure _) (judge_shows (fun _ => rfl) ..)

/-- The operation takes the course of its stages, one case for each way that it may go. -/
theorem helper_shows {tool : HelperTool} {env : Environment} {actions : Trace}
    {result : Except Failure Int}
    (h : Course (s.checkStage selector tool env) (s.installStage tool env)
      (s.mainStage selector e env) actions result) :
    (s.helper e tool env).Shows Event.isAction actions result := by
  cases h with
  | unchecked hcheck =>
    exact (ensure_shows_of_error hreal hdir hselector hcheck).bind_error
  | present hcheck =>
    have ready := ensure_shows_of_present hreal hdir hselector hcheck
    exact helper_shows_of_ready hreal hdir hselector ready
  | interrupted hcheck habsent hinstall =>
    have ensured := ensure_shows_of_absent hreal hdir hselector hcheck habsent
    rw [hinstall] at ensured
    exact ensured.bind_error
  | uninstalled hcheck habsent hinstall hcode =>
    have ensured := ensure_shows_of_absent hreal hdir hselector hcheck habsent
    rw [hinstall] at ensured
    refine ensured.before ?_
    rw [if_pos hcode]
    exact shows_pure _
  | installed hcheck habsent hinstall =>
    have ready := ensure_shows_of_absent hreal hdir hselector hcheck habsent
    rw [hinstall] at ready
    exact helper_shows_of_ready hreal hdir hselector ready

end Stages

/-- Without a text for the channel there is no command to check with. -/
theorem helper_shows_of_unwritable (s : Workshop) {e : Entry} {cause : Unwritable}
    (h : e.selector = .error cause) (tool : HelperTool) (env : Environment)
    {keep : Event → Bool} : (s.helper e tool env).Shows keep [] (.error (.unwritable cause)) := by
  unfold helper ensure isAvailable
  rw [Entry.command_eq, h]
  exact ((shows_ofResult _).bind_error.bind_error).bind_error

end Workshop

/-- Every helper operation of a loaded configuration is ready with its tool, and really run in an
existing directory it takes the course of its stages, whatever the commands and the provisioner
come to. -/
theorem execute_helper_shows_iff {files : ConfigFiles} {directory : Text}
    {config : Configuration} (hload : files.load directory = .ok config) {name : Text} {e : Entry}
    (hname : config.catalogue.find? name = some e) (hkind : e.kind = .helper) :
    ∃ tool, e.helper = some tool ∧ Operation.ofEntry e = .ok (.helper e tool) ∧
      ∀ (s : Workshop) (env : Environment), s.runner.dryRun = false →
        s.world.isDirectory (Path.ofText s.rootDir).text = true →
        (∀ selector, e.selector = .ok selector → ∀ actions result,
          (s.execute (.helper e tool) env).Shows Event.isAction actions result ↔
            Course (s.checkStage selector tool env) (s.installStage tool env)
              (s.mainStage selector e env) actions result) ∧
        ∀ cause, e.selector = .error cause →
          (s.execute (.helper e tool) env).Shows Event.isAction []
            (.error (.unwritable cause)) := by
  have coherent := (ConfigFiles.ready_of_load hload).coherent hname
  obtain ⟨tool, htool⟩ := Option.isSome_iff_exists.mp (coherent.helper_iff.mpr hkind)
  refine ⟨tool, htool, by simp [Operation.ofEntry, hkind, htool], ?_⟩
  intro s env hreal hdir
  refine ⟨fun selector hselector actions result => ⟨fun h => ?_, fun h => ?_⟩,
    fun cause hcause => s.helper_shows_of_unwritable hcause tool env⟩
  · obtain ⟨actions', result', hcourse⟩ := Course.exists (s.checkStage selector tool env)
      (s.installStage tool env) (s.mainStage selector e env)
    obtain ⟨rfl, rfl⟩ := h.unique (Workshop.helper_shows hreal hdir hselector hcourse)
    exact hcourse
  · exact Workshop.helper_shows hreal hdir hselector h

/-- A place where nothing but a tool for audits is missing, and where audits are killed. -/
def auditShop : Workshop where
  world := { World.nowhere with
    isDirectory := fun _ => true
    outcome := fun command =>
      if command.contains "--version" then .exited 101 []
      else if command.contains "install" then .exited 0 []
      else .exited (-9) [] }
  runner := { logger := {} }
  toolchain := "cargo"
  rootDir := "/work"
  provisioner := .toolchain

theorem audit_shows : ∃ config e tool, ConfigFiles.small.load "etc" = .ok config ∧
    config.catalogue.find? "audit" = some e ∧ e.kind = .helper ∧ e.helper = some tool ∧
    ∀ env, (auditShop.execute (.helper e tool) env).Shows Event.isAction
      [.attempted ⟨["cargo", "+nightly", "audit", "--version"], some "/work", env, .discarded⟩,
        .attempted ⟨["cargo", "install", "cargo-audit"], some "/work", env, .inherited⟩,
        .attempted ⟨["cargo", "+nightly", "audit"], some "/work", env, .inherited⟩]
      (.ok (-9)) := by
  have hload : ConfigFiles.small.load "etc" = .ok _ := rfl
  obtain ⟨tool, htool, -, hshows⟩ := @execute_helper_shows_iff _ _ _ hload "audit" _ rfl rfl
  refine ⟨_, _, tool, hload, rfl, rfl, htool, fun env => ?_⟩
  obtain rfl := Option.some.inj htool
  refine ((hshows auditShop env rfl rfl).1 ["+nightly"] rfl _ _).mpr ?_
  exact .installed rfl (by decide) rfl

/-- An audit with a number for a channel that has too many digits. -/
def longAudit : ConfigFiles := .withEntry "audit"
  [(.str "kind", .str "helper"), (.str "args", .list [.str "audit"]),
    (.str "channel", .int manyDigits), (.str "helper", .mapping [
      (.str "name", .str "cargo-audit"),
      (.str "check_args", .list [.str "audit", .str "--version"]),
      (.str "install_args", .list [.str "install", .str "cargo-audit"])])]

/-- There is a directory and nobody only announces commands, but there is not even a check. -/
theorem longAudit_unchecked : ∃ config e tool, longAudit.load "etc" = .ok config ∧
    config.catalogue.find? "audit" = some e ∧ e.kind = .helper ∧ e.helper = some tool ∧
    auditShop.runner.dryRun = false ∧
    auditShop.world.isDirectory (Path.ofText auditShop.rootDir).text = true ∧
    ∀ env, (auditShop.execute (.helper e tool) env).Shows Event.isAction []
      (.error (.unwritable .tooManyDigits)) := by
  obtain ⟨config, e, tool, hload, hfound, hkind, htool, hlook⟩ : ∃ config e tool,
      longAudit.load "etc" = .ok config ∧ config.catalogue.find? "audit" = some e ∧
      e.kind = .helper ∧ e.helper = some tool ∧
      e.channel.heap.look e.channel.place = .int manyDigits :=
    ⟨_, _, _, rfl, rfl, rfl, rfl, rfl⟩
  have hselector := Entry.selector_of_manyDigits hlook le_natAbs_manyDigits
  exact ⟨config, e, tool, hload, hfound, hkind, htool, rfl, rfl, fun env =>
    auditShop.helper_shows_of_unwritable hselector tool env⟩

end BuildDispatch
