import BuildDispatch.Proofs.CommandLine.ExitStatus
import BuildDispatch.Proofs.Session.Listing

/-!
# The command line is a gate

Arguments are read in full before anything is done about them. As long as they are not read and the
invocation is not gathered, a command line tells the user something and does nothing else; after
that, it opens its log file. Then it lists the catalogue, which asks nothing of the world, or it
dispatches a name that the catalogue has.

## Main statements

* `CommandLine.gathers_of_isGuarded`: what is behind the gate.
* `CommandLine.Ended`: how a command line ends whose arguments are not read.
* `CommandLine.run_gated`: all ways through a command line over a loaded configuration.
* `listings_refused`: two listings that do not end with zero.
-/

namespace BuildDispatch

open Run

/-- The events that have to wait until the arguments are read: all but output and messages. -/
def Event.isGuarded : Event → Bool
  | .wrote _ => false
  | .reported _ => false
  | _ => true

theorem Trace.isGuarded_of_mem_ofLines {lines : List Text} {ev : Event}
    (h : ev ∈ Trace.ofLines lines) : ev.isGuarded = false := by
  obtain ⟨line, -, rfl⟩ := List.mem_map.mp h
  rfl

/-! ### No name is unknown -/

/-- No failure of an operation says that there is no such operation. -/
theorem Workshop.execute_ne_unknown {s : Workshop} (hself : s.provisioner = .toolchain) {e : Entry}
    {o : Operation} (ho : Operation.ofEntry e = .ok o) (env : Environment) (name : Text)
    (available : List Text) :
    (s.execute o env).result ≠ .error (.unknownOperation name available) := by
  intro hresult
  rcases obstacle_or_excuse_of_error ho hresult with hobstacle | ⟨-, hexcuse⟩
  · cases hobstacle.isRefusal
  · cases hexcuse with
    | provisioner hasked => cases hself.symm.trans hasked

namespace CommandLine

variable {cl : CommandLine} {config : Configuration} {r : Options.Request} {i : Invocation}

theorem Gathers.dispatches (h : cl.Gathers config r i) (hlist : r.list = false)
    (hfault : cl.logFault i r = none) : cl.Dispatches config r i where
  loaded := h.loaded
  read := h.read
  unlisted := hlist
  gathered := h.gathered
  unfaulted := hfault

theorem Dispatches.result_ne_unknown (h : cl.Dispatches config r i) {name : Text} {e : Entry}
    (hfound : config.catalogue.find? name = some e) (asked : Text) (available : List Text) :
    ((cl.session i).dispatch (cl.setup config i r) name).run.result ≠
      .error (.unknownOperation asked available) := by
  obtain ⟨o, env, ho, hresult, -⟩ := h.dispatch_eq_execute hfound
  rw [hresult]
  exact Workshop.execute_ne_unknown rfl ho env asked available

/-! ### Before the gate -/

/-- How a command line ends whose arguments are not read: with a message and the status two, or with
the help text and zero. Either may be impossible, and then it escapes. -/
inductive Ended (choices : List Text) : Options.Stop → Report → Prop
  | refused {f : Options.UsageFault} {usage : Text} {report : Report}
    (husage : Options.usage? choices = some usage)
    (hevents : report.events =
      [.reported (usage ++ "\n" ++ Options.program ++ ": error: " ++ f.message ++ "\n")])
    (hending : report.ending = .exit 2) : Ended choices (.fault f) report
  | helped {help : Text} {report : Report} (hhelp : Options.help? choices = some help)
    (hevents : report.events = Trace.ofLines [help]) (hending : report.ending = .exit 0) :
    Ended choices .help report
  | unwritten {help : Text} {cause : Utf8.Unencodable} {report : Report}
    (hhelp : Options.help? choices = some help) (hcause : Utf8.unencodable? help = some cause)
    (hevents : report.events = [])
    (hending : report.ending = .escaped (.unwritten (.unencodable cause))) :
    Ended choices .help report
  | shapeless {stop : Options.Stop} {report : Report} (husage : Options.usage? choices = none)
    (hevents : report.events = []) (hending : report.ending = .escaped .shapelessUsage) :
    Ended choices stop report

theorem ended_usageRefusal (choices : List Text) (f : Options.UsageFault) :
    Ended choices (.fault f) (usageRefusal choices f) := by
  unfold usageRefusal
  cases husage : Options.usage? choices with
  | some usage => exact .refused husage rfl rfl
  | none => exact .shapeless husage rfl rfl

theorem ended_helpReport (choices : List Text) : Ended choices .help (helpReport choices) := by
  unfold helpReport
  cases hhelp : Options.help? choices with
  | none =>
    have husage : Options.usage? choices = none := by
      cases husage : Options.usage? choices with
      | none => rfl
      | some usage =>
        rw [Options.help?, husage] at hhelp
        cases hhelp
    exact .shapeless husage rfl rfl
  | some help =>
    dsimp only
    cases hwritten : sink.refusal help with
    | some failure =>
      obtain ⟨cause, hcause, rfl⟩ := Sink.exists_cause_of_refusal hwritten
      rw [sink.write_of_some hwritten]
      exact .unwritten hhelp hcause rfl rfl
    | none =>
      rw [sink.write_of_none hwritten]
      exact .helped hhelp rfl rfl

theorem ended_of_read (hload : cl.files.load cl.configDir = .ok config) {stop : Options.Stop}
    (hread : Options.read config.catalogue.keys cl.arguments = .error stop) :
    Ended config.catalogue.keys stop cl.run := by
  rw [run_of_loaded hload, runLoaded, hread]
  cases stop with
  | help => exact ended_helpReport _
  | fault f => exact ended_usageRefusal _ f

theorem Ended.isGuarded_of_mem {choices : List Text} {stop : Options.Stop} {report : Report}
    (h : Ended choices stop report) {ev : Event} (hev : ev ∈ report.events) :
    ev.isGuarded = false := by
  cases h with
  | refused _ hevents =>
    rw [hevents] at hev
    obtain rfl := List.mem_singleton.mp hev
    rfl
  | helped _ hevents =>
    rw [hevents] at hev
    exact Trace.isGuarded_of_mem_ofLines hev
  | unwritten _ _ hevents =>
    rw [hevents] at hev
    cases hev
  | shapeless _ hevents =>
    rw [hevents] at hev
    cases hev

/-- Behind the gate are command lines whose arguments are read and whose invocation is gathered. -/
theorem gathers_of_isGuarded (hload : cl.files.load cl.configDir = .ok config) {ev : Event}
    (hev : ev ∈ cl.run.events) (hguarded : ev.isGuarded = true) :
    ∃ r i, cl.Gathers config r i := by
  cases hread : Options.read config.catalogue.keys cl.arguments with
  | error stop =>
    have hfree := (ended_of_read hload hread).isGuarded_of_mem hev
    cases hfree.symm.trans hguarded
  | ok r =>
    cases hgather : config.gather cl.environment (flagsOf r) cl.currentDir with
    | ok i => exact ⟨r, i, hload, hread, hgather⟩
    | error failure =>
      rw [run_of_loaded hload, runLoaded, hread] at hev
      dsimp only at hev
      rw [hgather] at hev
      obtain rfl := List.mem_singleton.mp hev
      cases hguarded

/-! ### Behind the gate -/

/-- Without its log file, a command line says why it cannot be had and ends with the status one. -/
structure Unbegun (cl : CommandLine) (r : Options.Request) (i : Invocation) (cause : Text) :
    Prop where
  events : cl.run.events =
    cl.opened i r ++ [.reported ("Error initializing build system: " ++ cause ++ "\n")]
  ending : cl.run.ending = .exit 1

theorem Gathers.unbegun (h : cl.Gathers config r i) {cause : Text}
    (hfault : cl.logFault i r = some cause) : cl.Unbegun r i cause := by
  have hrun := h.run_eq.trans (perform_of_fault config hfault)
  exact ⟨by rw [hrun]; rfl, by rw [hrun]; rfl⟩

/-- A listing does nothing but open the log file and write, and it ends with zero exactly if the log
file can be had and every line of it can be written. -/
structure ListsOnly (cl : CommandLine) (config : Configuration) (r : Options.Request)
    (i : Invocation) : Prop where
  queries : cl.run.events.queries = []
  attempts : cl.run.events.attempts = []
  events : cl.logFault i r = none → ∃ front, front <+: Session.listing config.catalogue i ∧
    cl.run.events = cl.opened i r ++ Trace.ofLines front
  complete : cl.run.ending = .exit 0 →
    cl.run.events = cl.opened i r ++ Trace.ofLines (Session.listing config.catalogue i)
  ending : cl.logFault i r = none → cl.run.ending = .exit 0 ∨
    ∃ cause, cl.run.ending = .escaped (.unwritten (.unencodable cause))
  ending_eq_iff : cl.run.ending = .exit 0 ↔ cl.logFault i r = none ∧
    ∀ line ∈ Session.listing config.catalogue i, Utf8.unencodable? line = none

theorem ending_written_eq_exit_iff (t : Trace) (result : Except Failure Unit) :
    (written ⟨t, result⟩).ending = .exit 0 ↔ result = .ok () := by
  cases result with
  | ok u => exact iff_of_true rfl rfl
  | error failure => exact iff_of_false nofun nofun

theorem Unbegun.listsOnly {cause : Text} (h : cl.Unbegun r i cause)
    (hfault : cl.logFault i r = some cause) : cl.ListsOnly config r i where
  queries := by
    rw [h.events, queries_opened_append]
    rfl
  attempts := by
    rw [h.events, attempts_opened_append]
    rfl
  events hnone := nomatch hfault.symm.trans hnone
  complete hexit := nomatch h.ending.symm.trans hexit
  ending hnone := nomatch hfault.symm.trans hnone
  ending_eq_iff :=
    iff_of_false (fun hexit => nomatch h.ending.symm.trans hexit) fun ⟨hnone, _⟩ =>
      nomatch hfault.symm.trans hnone

theorem refusal_eq_none_iff {line : Text} :
    sink.refusal line = none ↔ Utf8.unencodable? line = none := Option.map_eq_none_iff

theorem Gathers.listsOnly_of_open (h : cl.Gathers config r i) (hlist : r.list = true)
    (hfault : cl.logFault i r = none) : cl.ListsOnly config r i := by
  let lines := Session.listing config.catalogue i
  obtain ⟨t, result, writes, hevents, hending⟩ : ∃ t result, sink.WritesOut lines t result ∧
      cl.run.events = cl.opened i r ++ t ∧ cl.run.ending = (written ⟨t, result⟩).ending := by
    refine ⟨_, _, sink.writeAll_writesOut lines, ?_⟩
    rw [h.run_of_list hlist hfault]
    exact ⟨rfl, rfl⟩
  obtain ⟨front, hfront, rfl⟩ := writes.exists_eq_ofLines
  have hzero : cl.run.ending = .exit 0 ↔ result = .ok () := by
    rw [hending]
    exact ending_written_eq_exit_iff _ result
  have hlines : cl.run.ending = .exit 0 ↔ ∀ line ∈ lines, Utf8.unencodable? line = none := by
    rw [hzero, writes.result_eq_ok_iff]
    exact forall₂_congr fun _ _ => refusal_eq_none_iff
  refine ⟨?_, ?_, fun _ => ⟨front, hfront, hevents⟩, fun hexit => ?_, fun _ => ?_, ?_⟩
  · rw [hevents, queries_opened_append]
    exact Trace.queries_ofLines front
  · rw [hevents, attempts_opened_append]
    exact Trace.attempts_ofLines front
  · obtain rfl := hzero.mp hexit
    rw [hevents, writes.eq_ofLines_of_ok]
  · rw [hending]
    generalize Trace.ofLines front = t at writes
    cases writes with
    | all => exact .inl rfl
    | upTo _ _ hline =>
      obtain ⟨cause, -, rfl⟩ := Sink.exists_cause_of_refusal hline
      exact .inr ⟨cause, rfl⟩
  · rw [hlines, hfault, eq_self_iff_true, true_and]

theorem Gathers.listsOnly (h : cl.Gathers config r i) (hlist : r.list = true) :
    cl.ListsOnly config r i := by
  cases hfault : cl.logFault i r with
  | some cause => exact (h.unbegun hfault).listsOnly hfault
  | none => exact h.listsOnly_of_open hlist hfault

/-- All ways through a command line over a loaded configuration. Only behind the gate is anything
done. There the log file is opened, if that is possible; then the catalogue is listed, whatever
operation is named, or a name of the catalogue is dispatched, and it is not unknown. -/
theorem run_gated (hload : cl.files.load cl.configDir = .ok config) :
    (∀ stop, Options.read config.catalogue.keys cl.arguments = .error stop →
      Ended config.catalogue.keys stop cl.run) ∧
    (∀ ev ∈ cl.run.events, ev.isGuarded = true → ∃ r i, cl.Gathers config r i) ∧
    (∀ r i cause, cl.Gathers config r i → cl.logFault i r = some cause →
      cl.Unbegun r i cause) ∧
    (∀ r i, cl.Gathers config r i → r.list = true → cl.ListsOnly config r i) ∧
    ∀ r i, cl.Gathers config r i → cl.logFault i r = none → r.list = false →
      ∃ name ∈ config.catalogue.keys, r.operation = some name ∧
        let p := (cl.session i).dispatch (cl.setup config i r) name
        (∀ asked available, p.run.result ≠ .error (.unknownOperation asked available)) ∧
        cl.run.events = cl.opened i r ++
          (dispatch (cl.setup config i r) (cl.session i) name).1 ∧
        cl.run.ending = .exit (dispatch (cl.setup config i r) (cl.session i) name).2 := by
  refine ⟨fun stop => ended_of_read hload, fun ev => gathers_of_isGuarded hload,
    fun r i cause gathers => gathers.unbegun, fun r i => Gathers.listsOnly,
    fun r i gathers hfault hlist => ?_⟩
  have dispatches := gathers.dispatches hlist hfault
  obtain ⟨name, hname, hoperation⟩ := Options.exists_operation_of_read gathers.read hlist
  obtain ⟨e, hfound⟩ := Bindings.exists_find?_of_mem_keys hname
  refine ⟨name, hname, hoperation, dispatches.result_ne_unknown hfound, ?_⟩
  rw [dispatches.run_eq hoperation]
  exact ⟨rfl, rfl⟩

/-- Whatever is asked for over the small configuration, an invocation is gathered. -/
theorem exists_gathers_of_read {arguments : List Text} {r : Options.Request}
    (hread : Options.read ["build", "b", "audit"] arguments = .ok r) (world : World) :
    ∃ config i, ({ auditLine with arguments, world } : CommandLine).Gathers config r i := by
  obtain ⟨config, hload, hkeys, htoolchain, hverbose⟩ :
      ∃ config, ConfigFiles.small.load "etc" = .ok config ∧
        config.catalogue.keys = (["build", "b", "audit"] : List Text) ∧
        config.toolchainFor auditLine.environment = .ok "cargo" ∧
        config.verboseFor auditLine.environment = .ok false :=
    ⟨_, rfl, rfl, rfl, rfl⟩
  obtain ⟨i, hgather⟩ : ∃ i,
      config.gather auditLine.environment (flagsOf r) auditLine.currentDir = .ok i := by
    rw [Configuration.gather, htoolchain, hverbose]
    exact ⟨_, rfl⟩
  exact ⟨config, i, hload, hkeys ▸ hread, hgather⟩

/-- The list is asked for in short, and an operation is named, too. -/
def listLine : CommandLine :=
  { auditLine with arguments := ["audit", "--lis", "--log-file", "log"] }

theorem listLine_gated : ∃ config r i, listLine.files.load listLine.configDir = .ok config ∧
    listLine.Gathers config r i ∧ r.list = true ∧ r.operation = some "audit" ∧
    listLine.run.events =
      .madeDirectory "." :: .openedLog "log" ::
        Trace.ofLines (Session.listing config.catalogue i) := by
  have hread : Options.read ["build", "b", "audit"] listLine.arguments =
      .ok { operation := some "audit", list := true, logFile := some "log" } := rfl
  obtain ⟨config, i, gathers⟩ := exists_gathers_of_read hread auditLine.world
  obtain ⟨-, -, -, hlisted, -⟩ := run_gated gathers.loaded
  have hexit : listLine.run.ending = .exit 0 := by decide +kernel
  exact ⟨config, _, i, gathers.loaded, gathers, rfl, rfl, (hlisted _ i gathers rfl).complete hexit⟩

/-- The list is asked for with a log file that is a directory. -/
def unopenedLine : CommandLine :=
  { auditLine with
    arguments := ["--list", "--log-file", "/"]
    world := { World.nowhere with
      disk := { fileFault := fun _ => some "[Errno 21] Is a directory: '/'" } } }

end CommandLine

open CommandLine in
/-- In both lines the list is in effect and the invocation is gathered, but the status is not zero:
once the log file cannot be had, and once a row cannot be written. -/
theorem listings_refused :
    (∃ config r i, unopenedLine.Gathers config r i ∧ r.list = true ∧
      unopenedLine.run.ending = .exit 1 ∧ unopenedLine.run.events = [.madeDirectory "/",
        .reported "Error initializing build system: [Errno 21] Is a directory: '/'\n"]) ∧
    ∃ config r i, surrogateRowLine.Gathers config r i ∧ r.list = true ∧
      surrogateRowLine.run.ending ≠ .exit 0 := by
  constructor
  · have hread : Options.read ["build", "b", "audit"] unopenedLine.arguments =
        .ok { list := true, logFile := some "/" } := rfl
    obtain ⟨config, i, gathers⟩ := exists_gathers_of_read hread unopenedLine.world
    exact ⟨config, _, i, gathers, rfl, by decide +kernel, by decide +kernel⟩
  · obtain ⟨config, r, i, gathers, hlist, -⟩ := surrogateRowLine_gathers
    exact ⟨config, r, i, gathers, hlist, by decide +kernel⟩

end BuildDispatch
