import BuildDispatch.Proofs.CommandLine.Opening
import BuildDispatch.Proofs.Operation.Success
import BuildDispatch.Proofs.Options.Read
import BuildDispatch.Proofs.Session.Linkage

/-!
# What a status says

A command line that comes to a dispatch ends with the status of what was dispatched: zero exactly
if the work was done. Every failure has a status of its own, and so has the end by a signal.

## Main statements

* `CommandLine.Dispatches`: when a command line comes to a dispatch.
* `CommandLine.run_dispatched`: the status of a command line, by what its operation came to.
-/

namespace BuildDispatch

open Run

namespace CommandLine

/-- The session that a command line works in. -/
def session (cl : CommandLine) (i : Invocation) : Session := { world := cl.world, invocation := i }

def setup (cl : CommandLine) (config : Configuration) (i : Invocation)
    (r : Options.Request) : Setup :=
  { catalogue := config.catalogue, logger := cl.loggerFor i r, sink }

/-- The configuration is accepted, the arguments ask for an operation, the invocation can be
gathered, and the log file can be had. -/
structure Dispatches (cl : CommandLine) (config : Configuration) (r : Options.Request)
    (i : Invocation) : Prop where
  loaded : cl.files.load cl.configDir = .ok config
  read : Options.read config.catalogue.keys cl.arguments = .ok r
  unlisted : r.list = false
  gathered : config.gather cl.environment (flagsOf r) cl.currentDir = .ok i
  unfaulted : cl.logFault i r = none

section Dispatches

variable {cl : CommandLine} {config : Configuration} {r : Options.Request} {i : Invocation}

theorem Dispatches.run_eq (h : cl.Dispatches config r i) {name : Text}
    (hname : r.operation = some name) :
    cl.run =
      { events := cl.opened i r ++ (dispatch (cl.setup config i r) (cl.session i) name).1
        ending := .exit (dispatch (cl.setup config i r) (cl.session i) name).2
        logger := some (cl.loggerFor i r) } := by
  unfold run
  rw [h.loaded]
  dsimp only [runLoaded]
  rw [h.read]
  dsimp only
  rw [h.gathered]
  dsimp only
  rw [perform_of_open config h.unfaulted, performWith, h.unlisted, hname]
  rfl

/-- The name that the operation was asked for by leads to an entry. -/
theorem Dispatches.exists_entry (h : cl.Dispatches config r i) :
    ∃ name e, r.operation = some name ∧ config.catalogue.find? name = some e := by
  obtain ⟨name, hmem, hname⟩ := Options.exists_operation_of_read h.read h.unlisted
  obtain ⟨e, he⟩ := Bindings.exists_find?_of_mem_keys hmem
  exact ⟨name, e, hname, he⟩

theorem Dispatches.dryRun_eq (h : cl.Dispatches config r i) : i.dryRun = r.dryRun := by
  have hgathered := h.gathered
  simp only [Configuration.gather, bind_eq_ok_iff] at hgathered
  obtain ⟨toolchain, -, verbose, -, hi⟩ := hgathered
  obtain rfl := Except.ok.inj hi
  rfl

end Dispatches

/-! ### Statuses -/

/-- How a command line ends, by what its operation came to. -/
structure Ends (ending : Ending) (result : Except Failure Int) : Prop where
  returned : ∀ code, result = .ok code → 0 ≤ code → ending = .exit code
  /-- The status of a child that was killed is that of a shell. -/
  killed : ∀ signal : Nat, 0 < signal → result = .ok (-signal) → ending = .exit (128 + signal)
  interrupted : result = .error .interrupted → ending = .exit 130
  failed : ∀ failure, failure ≠ .interrupted → result = .error failure → ending = .exit 1

theorem exitStatus_eq_zero_iff {code : Int} : exitStatus code = 0 ↔ code = 0 := by
  unfold exitStatus
  split <;> omega

section Failed

variable (l : Log.Logger) (failure : Failure)

theorem failed_of_ne {failure : Failure} (h : failure ≠ .interrupted) (l : Log.Logger) :
    failed l failure =
      ((l.error ("Build system error: " ++ failure.message)).events ++
        (if l.verbose then [.reported "<traceback>\n"] else []), 1) := by
  unfold failed
  split
  · exact absurd rfl h
  · rfl

theorem failed_ne_zero : (failed l failure).2 ≠ 0 := by
  by_cases h : failure = .interrupted
  · rw [h]
    exact (by decide : (130 : Int) ≠ 0)
  · rw [failed_of_ne h]
    exact Int.one_ne_zero

theorem attempts_failed : (failed l failure).1.attempts = [] := by
  by_cases h : failure = .interrupted
  · rw [h]
    rfl
  · have said := say_shows l .error Log.rootSource ("Build system error: " ++ failure.message)
    rw [failed_of_ne h, Trace.attempts_append]
    refine List.append_eq_nil_iff.mpr ⟨said.attempts_eq, ?_⟩
    split <;> rfl

end Failed

section Dispatch

variable (c : Setup) (s : Session) (name : Text)

theorem dispatch_of_returned {code : Int} (h : (s.dispatch c name).run.result = .ok code) :
    dispatch c s name = ((s.dispatch c name).run.events, exitStatus code) := by
  dsimp only [dispatch]
  rw [h]

theorem dispatch_of_failed {failure : Failure}
    (h : (s.dispatch c name).run.result = .error failure) :
    dispatch c s name =
      ((s.dispatch c name).run.events ++ (failed c.logger failure).1,
        (failed c.logger failure).2) := by
  dsimp only [dispatch]
  rw [h]

theorem dispatch_ends : Ends (.exit (dispatch c s name).2) (s.dispatch c name).run.result where
  returned code h hcode := by
    rw [dispatch_of_returned c s name h, exitStatus, if_neg (by omega)]
  killed signal hsignal h := by
    rw [dispatch_of_returned c s name h, exitStatus, if_pos (by omega), Int.sub_neg]
  interrupted h := by
    rw [dispatch_of_failed c s name h]
    rfl
  failed failure hfailure h := by
    rw [dispatch_of_failed c s name h, failed_of_ne hfailure]

theorem dispatch_eq_zero_iff :
    (dispatch c s name).2 = 0 ↔ (s.dispatch c name).run.result = .ok 0 := by
  cases h : (s.dispatch c name).run.result with
  | ok code =>
    rw [dispatch_of_returned c s name h, exitStatus_eq_zero_iff]
    simp
  | error failure =>
    rw [dispatch_of_failed c s name h]
    simp [failed_ne_zero]

/-- What is told about a failure runs nothing. -/
theorem attempts_dispatch :
    (dispatch c s name).1.attempts = (s.dispatch c name).run.events.attempts := by
  cases h : (s.dispatch c name).run.result with
  | ok code => rw [dispatch_of_returned c s name h]
  | error failure =>
    rw [dispatch_of_failed c s name h, Trace.attempts_append, attempts_failed, List.append_nil]

end Dispatch

/-! ### Whole command lines -/

section Dispatches

variable {cl : CommandLine} {config : Configuration} {r : Options.Request} {i : Invocation}

/-- Where the operation of a command line runs. -/
def shop (cl : CommandLine) (config : Configuration) (i : Invocation) (r : Options.Request) :
    Workshop :=
  (cl.session i).workshop (cl.setup config i r)

theorem Dispatches.attempts_run (h : cl.Dispatches config r i) {name : Text}
    (hname : r.operation = some name) :
    cl.run.events.attempts =
      ((cl.session i).dispatch (cl.setup config i r) name).run.events.attempts := by
  rw [h.run_eq hname]
  dsimp only
  rw [attempts_opened_append, attempts_dispatch]

/-- A dispatch comes to what its operation comes to, and attempts what it attempts. -/
theorem Dispatches.dispatch_eq_execute (h : cl.Dispatches config r i) {name : Text} {e : Entry}
    (hfound : config.catalogue.find? name = some e) :
    ∃ o env, Operation.ofEntry e = .ok o ∧
      ((cl.session i).dispatch (cl.setup config i r) name).run.result =
        ((cl.shop config i r).execute o env).result ∧
      ((cl.session i).dispatch (cl.setup config i r) name).run.events.attempts =
        ((cl.shop config i r).execute o env).events.attempts := by
  have ready : (cl.setup config i r).catalogue.Ready := ConfigFiles.ready_of_load h.loaded
  have regular : (cl.session i).Regular (cl.setup config i r) i := Session.regular_start ..
  obtain ⟨inst, kept, ho, hobtain⟩ := regular.obtain_eq_ok ready hfound
  rw [Session.dispatch_of_ok hobtain]
  have executed : ((cl.shop config i r).execute inst.operation
      ((cl.session i).environmentNow inst.operation)).Shows Event.isAction _ _ := ⟨rfl, rfl⟩
  have performed := Session.perform_shows (c := cl.setup config i r)
    (s := { cl.session i with instances := kept }) executed
  refine ⟨inst.operation, _, ho, performed.result, ?_⟩
  rw [performed.attempts_eq, executed.attempts_eq]

/-- A command line that comes to a dispatch ends by what its operation came to. Unless commands are
only announced, it ends with zero exactly if the work is done, and the last that was attempted is
then the command of the operation itself. -/
theorem run_dispatched (h : cl.Dispatches config r i) :
    ∃ name e, r.operation = some name ∧ config.catalogue.find? name = some e ∧
      Ends cl.run.ending ((cl.session i).dispatch (cl.setup config i r) name).run.result ∧
      (r.dryRun = false → e.kind ≠ .info →
        (cl.run.ending = .exit 0 ↔
          ∃ env, (cl.shop config i r).Done e env cl.run.events.attempts) ∧
        (cl.run.ending = .exit 0 →
          cl.world.isDirectory (Path.ofText i.rootDir.text).text = true ∧
          ∃ main env routing, e.command i.toolchain e.args = .ok main ∧
            cl.world.Succeeds main ∧ cl.run.events.attempts.getLast? =
              some ⟨main, some i.rootDir.text, env, routing⟩)) := by
  obtain ⟨name, e, hname, hfound⟩ := h.exists_entry
  have hending : cl.run.ending =
      .exit (dispatch (cl.setup config i r) (cl.session i) name).2 := by rw [h.run_eq hname]
  refine ⟨name, e, hname, hfound, hending ▸ dispatch_ends .., fun hdry hkind => ?_⟩
  obtain ⟨o, given, ho, hresult, hattempts⟩ := h.dispatch_eq_execute hfound
  have hreal : (cl.shop config i r).runner.dryRun = false := h.dryRun_eq.trans hdry
  have hzero : cl.run.ending = .exit 0 ↔
      ((cl.shop config i r).execute o given).result = .ok 0 := by
    rw [hending, Ending.exit.injEq, dispatch_eq_zero_iff, hresult]
  have hdone : cl.run.ending = .exit 0 ↔
      ∃ env, (cl.shop config i r).Done e env cl.run.events.attempts := by
    rw [hzero, h.attempts_run hname, hattempts]
    exact Workshop.execute_eq_ok_zero_iff hreal ho hkind rfl given
  refine ⟨hdone, fun hexit => ⟨?_, ?_⟩⟩
  · by_contra hdir
    obtain ⟨failure, hshows⟩ := Workshop.execute_refuses hreal ho hkind
      (Bool.eq_false_iff.mpr hdir) given
    exact nomatch hshows.result.symm.trans (hzero.mp hexit)
  · obtain ⟨env, hattempted⟩ := hdone.mp hexit
    obtain ⟨main, routing, hmain, hsucceeds, hlast⟩ := hattempted.getLast?_eq
    exact ⟨main, env, routing, hmain, hsucceeds, hlast⟩

end Dispatches

/-- An audit on a machine where the tool for it has to be installed first. -/
def auditLine : CommandLine where
  arguments := ["--bundled", "audit"]
  environment := .ofList [("PATH", "/bin")]
  files := .small
  configDir := "etc"
  currentDir := .ofText "/work"
  world := { World.nowhere with
    isDirectory := fun _ => true
    outcome := fun command =>
      if command.contains "--version" then .exited 101 [] else .exited 0 [] }

theorem auditLine_done : ∃ config r i e, auditLine.Dispatches config r i ∧ r.dryRun = false ∧
    config.catalogue.find? "audit" = some e ∧ e.kind ≠ .info ∧
    auditLine.run.ending = .exit 0 ∧
    (∃ env, (auditLine.shop config i r).Done e env auditLine.run.events.attempts) ∧
    auditLine.run.events.attempts.length = 3 := by
  obtain ⟨config, hload, hkeys, htoolchain, hverbose, e, he, hhelper⟩ :
      ∃ config, ConfigFiles.small.load "etc" = .ok config ∧
        config.catalogue.keys = ["build", "b", "audit"] ∧
        config.toolchainFor auditLine.environment = .ok "cargo" ∧
        config.verboseFor auditLine.environment = .ok false ∧
        ∃ e, config.catalogue.find? "audit" = some e ∧ e.kind = .helper :=
    ⟨_, rfl, rfl, rfl, rfl, _, rfl, rfl⟩
  have hread : Options.read config.catalogue.keys auditLine.arguments =
      .ok { operation := some "audit", bundled := true } := by
    rw [hkeys]
    rfl
  obtain ⟨i, hgather⟩ : ∃ i, config.gather auditLine.environment
      (flagsOf { operation := some "audit", bundled := true }) auditLine.currentDir = .ok i := by
    rw [Configuration.gather, htoolchain, hverbose]
    exact ⟨_, rfl⟩
  have dispatches : auditLine.Dispatches config _ i := ⟨hload, hread, rfl, hgather, rfl⟩
  obtain ⟨name, e', hname, hfound, -, hstatus⟩ := run_dispatched dispatches
  obtain rfl : "audit" = name := Option.some.inj hname
  obtain rfl : e = e' := Option.some.inj (he.symm.trans hfound)
  have hkind : e.kind ≠ .info := by simp [hhelper]
  have hexit : auditLine.run.ending = .exit 0 := by decide +kernel
  exact ⟨config, _, i, e, dispatches, rfl, he, hkind, hexit,
    (hstatus rfl hkind).1.mp hexit, by decide +kernel⟩

end CommandLine
end BuildDispatch
