import BuildDispatch.Proofs.Invocation
import BuildDispatch.Proofs.Operation.Environment
import BuildDispatch.Proofs.Operation.Rehearsal

/-!
# Two ways to rule out the system library

A flag rules out the system library, and so does a variable of the environment, whatever its value
is. Both are one switch: what is gathered differs in the environment alone, and no dispatch can tell
the two ways apart but by the environment that it hands on. It asks for no library, logs the same
records and ends alike. Only a report on the environment has the line of that variable in addition,
and fails if this line cannot be written. Somebody else who is asked to install a tool may look for
the variable, too.

## Main statements

* `Configuration.gather_insert`: gathering with the flag and gathering with the variable.
* `Session.perform_switched`: the same operation in two environments.
* `bundling_switched`: every dispatch under the flag and under the variable.
* `bundling_toldApart`: a report and an installation that end differently.
-/

namespace BuildDispatch

open Run

/-! ### Gathering -/

theorem Environment.valueAt_insert {name : Value} {key : Text} (h : name.view ≠ .str key)
    (env : Environment) (value : Text) :
    Environment.valueAt (env.insert key value) name = env.valueAt name := by
  unfold valueAt
  cases hview : name.view with
  | str t =>
    have hne : t ≠ key := fun heq => h (heq ▸ hview)
    exact congrArg Except.ok (Bindings.find?_insert_of_ne env value hne)
  | _ => rfl

namespace Configuration

variable (c : Configuration) {key : Text} (env : Environment) (value : Text)

theorem toolchainFor_insert (h : (Config.programVar c.toolchain).view ≠ .str key) :
    c.toolchainFor (env.insert key value) = c.toolchainFor env := by
  unfold toolchainFor toolchainVar
  by_cases hsection : Config.HasSection c.toolchain "toolchain"
  · rw [c.sectionPart_of_hasSection hsection]
    change Environment.valueAt _ (Config.programVar c.toolchain) >>= _ =
      env.valueAt (Config.programVar c.toolchain) >>= _
    rw [Environment.valueAt_insert h]
  · obtain ⟨failure, hfailure, -⟩ :=
      c.sectionPart_of_not_hasSection (by decide) hsection "program_env"
    rw [hfailure]
    rfl

theorem verboseFor_insert (h : (Config.verboseVar c.toolchain).view ≠ .str key) :
    c.verboseFor (env.insert key value) = c.verboseFor env := by
  unfold verboseFor Configuration.verboseVar
  by_cases hsection : Config.HasSection c.toolchain "logging"
  · rw [c.sectionPart_of_hasSection hsection]
    change (if (Config.verboseVar c.toolchain).isNothing then _ else
        Environment.valueAt _ (Config.verboseVar c.toolchain) >>= _) =
      if (Config.verboseVar c.toolchain).isNothing then _ else
        env.valueAt (Config.verboseVar c.toolchain) >>= _
    rw [Environment.valueAt_insert h]
  · obtain ⟨failure, hfailure, -⟩ :=
      c.sectionPart_of_not_hasSection (by decide) hsection "verbose_env"
    rw [hfailure]
    rfl

/-- What is gathered with the flag is gathered with the variable, in whose environment it is. -/
theorem gather_insert (hprogram : (Config.programVar c.toolchain).view ≠ .str c.library.overrideVar)
    (hverbose : (Config.verboseVar c.toolchain).view ≠ .str c.library.overrideVar) (flags : Flags)
    (current : Path) :
    c.gather (env.insert c.library.overrideVar value) { flags with bundled := false } current =
      (c.gather env { flags with bundled := true } current).map fun i =>
        { i with baseEnv := env.insert c.library.overrideVar value } := by
  have hpresent :
      (env.insert c.library.overrideVar value).contains c.library.overrideVar = true := by
    rw [Bindings.contains, Bindings.find?_insert_self]
    rfl
  unfold gather
  rw [c.toolchainFor_insert env value hprogram, c.verboseFor_insert env value hverbose, hpresent]
  cases c.toolchainFor env with
  | error failure => rfl
  | ok program =>
    cases c.verboseFor env with
    | error failure => rfl
    | ok verbose => rfl

/-- The environment of an invocation is the one it was gathered from, and the flag rules out the
system library. -/
theorem of_gather_eq_ok {flags : Flags} {current : Path} {i : Invocation}
    (h : c.gather env { flags with bundled := true } current = .ok i) :
    i.baseEnv = env ∧ i.useSystemLibrary = false := by
  obtain ⟨program, -, h⟩ := bind_eq_ok_iff.mp h
  obtain ⟨verbose, -, h⟩ := bind_eq_ok_iff.mp h
  obtain rfl := Except.ok.inj h
  exact ⟨rfl, rfl⟩

end Configuration

/-! ### Dispatching -/

/-- The runs `p` and `q` of one entry do the same, but for a variable that is in the environment of
`q` alone. -/
structure Switched (sink : Sink) (e : Entry) (env : Environment) (key value : Text)
    (p q : Run Int) : Prop where
  /-- Neither looks for the library. -/
  queries : p.events.queries = [] ∧ q.events.queries = []
  records : q.events.records = p.events.records
  environment : ∀ a ∈ p.events.attempts, a.environment = env
  attempts : q.events.attempts =
    p.events.attempts.map (Attempt.rebase fun env => env.insert key value)
  /-- Only a report that would be complete can end otherwise, if the line of the variable cannot be
  written. -/
  result : (e.kind = .info → ∀ status, p.result = .ok status →
    sink.refusal (variableLine key value) = none) → q.result = p.result
  refused : e.kind = .info → ∀ status failure, p.result = .ok status →
    sink.refusal (variableLine key value) = some failure → q.result = .error failure
  /-- Where there is no report, or none that has this line, all output is the same. -/
  output : (e.kind = .info → ∀ status, p.result = .ok status →
    ∃ failure, sink.refusal (variableLine key value) = some failure) →
    q.events.output = p.events.output
  line : e.kind = .info → ∀ status, p.result = .ok status →
    sink.refusal (variableLine key value) = none →
      q.events.output = p.events.output ++ Utf8.encode (variableLine key value)
  /-- Nothing else is different, event by event. -/
  run : q = p.withVariable sink e key value

namespace Session

variable {c : Setup} {s t : Session} {o : Operation}

/-- Where the system library is ruled out, every operation runs in the plain environment. -/
theorem environmentNow_of_bundled (h : s.invocation.useSystemLibrary = false) (o : Operation) :
    s.environmentNow o = s.invocation.baseEnv := by
  have hfound : s.foundNow o = none := by
    unfold foundNow
    rw [h, Bool.and_false]
    rfl
  rw [environmentNow_eq, hfound]

theorem queries_perform_of_bundled (h : s.invocation.useSystemLibrary = false) (c : Setup)
    (o : Operation) : (s.perform c o).run.events.queries = [] := by
  rw [queries_perform, h, Bool.and_false]
  rfl

/-- A dispatch does not see the environment until its operation runs. -/
theorem perform_run_of_bundled (h : s.invocation.useSystemLibrary = false) {env : Environment}
    (hworld : t.world = s.world)
    (hinvocation : t.invocation = { s.invocation with baseEnv := env }) (c : Setup)
    (o : Operation) :
    (t.perform c o).run = s.prelude c o >>= fun _ => (s.workshop c).execute o env := by
  have henvironment : t.environmentNow o = env := by
    rw [environmentNow_of_bundled (by rw [hinvocation]; exact h), hinvocation]
  have hprelude : t.prelude c o = s.prelude c o := by
    unfold prelude resolutionNow
    rw [hworld, hinvocation]
  have hworkshop : t.workshop c = s.workshop c := by
    unfold workshop
    rw [hworld, hinvocation]
  rw [perform_run, henvironment, hprelude, hworkshop]

theorem perform_switched {e : Entry} (ho : Operation.ofEntry e = .ok o)
    (h : s.invocation.useSystemLibrary = false) {key value : Text}
    (habsent : key ∉ s.invocation.baseEnv.keys)
    (hprovisioner : e.kind = .helper → c.provisioner.Overlooks s.invocation.baseEnv
      (s.invocation.baseEnv.insert key value)) (hworld : t.world = s.world)
    (hinvocation : t.invocation =
      { s.invocation with baseEnv := s.invocation.baseEnv.insert key value }) :
    Switched c.sink e s.invocation.baseEnv key value (s.perform c o).run (t.perform c o).run := by
  have bundled : t.invocation.useSystemLibrary = false := by
    rw [hinvocation]
    exact h
  have hrun : (t.perform c o).run = (s.perform c o).run.withVariable c.sink e key value := by
    have executed := Workshop.execute_insert (s := s.workshop c) ho habsent hprovisioner
    have silent : (s.prelude c o).Every fun ev =>
        ev.rebase (fun env => env.insert key value) = ev :=
      prelude_every (fun _ => rfl) (fun _ _ _ => rfl) (fun _ _ => rfl) c s o
    rw [perform_run_of_bundled h hworld hinvocation, perform_run_of_bundled h rfl rfl,
      withVariable_bind silent]
    exact bind_congr fun _ => executed
  refine ⟨⟨queries_perform_of_bundled h c o, queries_perform_of_bundled bundled c o⟩, ?_, ?_, ?_,
    ?_, ?_, ?_, ?_, hrun⟩
  · rw [hrun, records_withVariable]
  · intro a ha
    have permitted := permits_of_mem_perform (Trace.mem_attempts.mp ha) (by simp)
    rw [permitted.2, environmentNow_of_bundled h]
  · rw [hrun, attempts_withVariable]
  · intro hwritable
    rw [hrun, result_withVariable hwritable]
  · intro hkind status failure hresult hrefused
    rw [hrun, result_withVariable_of_refused hkind hresult hrefused]
  · intro hincomplete
    rw [hrun, output_withVariable hincomplete]
  · intro hkind status hresult hwritable
    rw [hrun, output_withVariable_of_report hkind hresult hwritable]

end Session

/-- For every loaded configuration the flag and the variable are one switch, unless the variable has
another meaning, too. They differ in that variable alone, in what is gathered and in what every
operation gets from it, and its value makes no difference. -/
theorem bundling_switched {files : ConfigFiles} {directory : Text} {config : Configuration}
    (hload : files.load directory = .ok config)
    (hprogram : (Config.programVar config.toolchain).view ≠ .str config.library.overrideVar)
    (hverbose : (Config.verboseVar config.toolchain).view ≠ .str config.library.overrideVar)
    {env : Environment} (habsent : config.library.overrideVar ∉ env.keys) (value : Text)
    (flags : Flags) (current : Path) :
    let key := config.library.overrideVar
    let flagged := config.gather env { flags with bundled := true } current
    let start := fun (w : World) (i : Invocation) => ({ world := w, invocation := i } : Session)
    (env.insert key value).toList = env.toList ++ [(key, value)] ∧
    config.gather (env.insert key value) { flags with bundled := false } current =
      flagged.map (fun i => { i with baseEnv := env.insert key value }) ∧
    ∀ i, flagged = .ok i → i.baseEnv = env ∧ i.useSystemLibrary = false ∧
      ∀ c : Setup, c.catalogue = config.catalogue →
      ∀ (w : World) (name : Text) (e : Entry), config.catalogue.find? name = some e →
        (e.kind = .helper → c.provisioner.Overlooks env (env.insert key value)) →
        Switched c.sink e env key value ((start w i).dispatch c name).run
          ((start w { i with baseEnv := env.insert key value }).dispatch c name).run := by
  intro key flagged start
  refine ⟨Bindings.toList_insert_of_notMem habsent value,
    config.gather_insert env value hprogram hverbose flags current, fun i hi => ?_⟩
  obtain ⟨rfl, hbundled⟩ := config.of_gather_eq_ok env hi
  refine ⟨rfl, hbundled, fun c hc w name e hname hprovisioner => ?_⟩
  obtain ⟨o, kept, ho, hp⟩ := Session.exists_perform_of_load hload hc
    (Session.regular_start c w i) hname
  obtain ⟨o', kept', ho', hq⟩ := Session.exists_perform_of_load hload hc
    (Session.regular_start c w { i with baseEnv := i.baseEnv.insert key value }) hname
  obtain rfl : o = o' := Except.ok.inj (ho.symm.trans ho')
  rw [hp, hq]
  exact Session.perform_switched (s := { start w i with instances := kept }) ho hbundled habsent
    hprovisioner rfl rfl

/-- An audit under the flag and one with the variable set to nothing, where there is a system
library but no toolchain; and two reports, of which the second ends with the line of the
variable. -/
theorem audit_switched :
    let env : Environment := .ofList [("PATH", "/bin")]
    let extended : Environment := .ofList [("PATH", "/bin"), ("Z_BUNDLED", "")]
    let start := fun i : Invocation => ({ world := optMachine, invocation := i } : Session)
    (∃ config e i, ConfigFiles.small.load "etc" = .ok config ∧
      config.catalogue.find? "audit" = some e ∧ e.kind = .helper ∧
      config.gather env { bundled := true } (.ofText "/work") = .ok i ∧
      config.gather extended {} (.ofText "/work") = .ok { i with baseEnv := extended } ∧
      let p := ((start i).dispatch (config.setup .text) "audit").run
      let q := ((start { i with baseEnv := extended }).dispatch (config.setup .text) "audit").run
      Switched .text e env "Z_BUNDLED" "" p q ∧ p.result = .ok 127 ∧
        q.events.attempts.map Attempt.environment = [extended, extended]) ∧
    ∃ config i, report.load "etc" = .ok config ∧
      config.gather env { bundled := true } (.ofText "/work") = .ok i ∧
      let p := ((start i).dispatch (config.setup .text) "t").run
      let q := ((start { i with baseEnv := extended }).dispatch (config.setup .text) "t").run
      q.result = p.result ∧
        q.events.output = p.events.output ++ Utf8.encode "Z_BUNDLED=\n" := by
  intro env extended start
  have absent : ("Z_BUNDLED" : Text) ∉ env.keys := by decide
  constructor
  · have hload : ConfigFiles.small.load "etc" = .ok _ := rfl
    obtain ⟨-, hgather, hdispatch⟩ := bundling_switched hload nofun nofun absent "" {}
      (.ofText "/work")
    obtain ⟨-, -, switched⟩ := hdispatch _ rfl
    refine ⟨_, _, _, hload, rfl, rfl, rfl, hgather, ?_, rfl, rfl⟩
    exact switched (Configuration.setup _ .text) rfl optMachine "audit" _ rfl fun _ =>
      Provisioner.overlooks_toolchain _ _
  · have hload : report.load "etc" = .ok _ := rfl
    obtain ⟨-, -, hdispatch⟩ := bundling_switched hload nofun nofun absent "" {} (.ofText "/work")
    obtain ⟨-, -, hswitched⟩ := hdispatch _ rfl
    have switched := hswitched { catalogue := _, logger := {} } rfl optMachine "t" _ rfl nofun
    exact ⟨_, _, hload, rfl, switched.result fun _ _ _ => rfl, switched.line rfl 0 rfl rfl⟩

/-- Somebody who installs a tool only where there is no variable of this name. -/
def choosy (key : Text) : Provisioner :=
  .other fun _ env => if env.contains key then 1 else 0

/-- With a value that is no character, a report fails that is complete under the flag. And somebody
else may refuse to install a tool because of the variable. -/
theorem bundling_toldApart :
    let env : Environment := .ofList [("PATH", "/bin")]
    let extended (value : Text) : Environment := .ofList [("PATH", "/bin"), ("Z_BUNDLED", value)]
    let start (i : Invocation) : Session := { world := optMachine, invocation := i }
    (∃ config i, report.load "etc" = .ok config ∧
      config.gather env { bundled := true } (.ofText "/work") = .ok i ∧
      config.gather (extended loneSurrogate) {} (.ofText "/work") =
        .ok { i with baseEnv := extended loneSurrogate } ∧
      let c := config.setup .textOverOctets
      ((start i).dispatch c "t").run.result = .ok 0 ∧
        ((start { i with baseEnv := extended loneSurrogate }).dispatch c "t").run.result ≠ .ok 0) ∧
    ∃ config i, ConfigFiles.small.load "etc" = .ok config ∧
      config.gather env { bundled := true } (.ofText "/work") = .ok i ∧
      config.gather (extended "") {} (.ofText "/work") = .ok { i with baseEnv := extended "" } ∧
      let c := { config.setup .text with provisioner := choosy "Z_BUNDLED" }
      ((start i).dispatch c "audit").run.result = .ok 127 ∧
        ((start { i with baseEnv := extended "" }).dispatch c "audit").run.result = .ok 1 := by
  intro env extended start
  constructor
  · have hload : report.load "etc" = .ok _ := rfl
    exact ⟨_, _, hload, rfl, rfl, by decide +kernel, by decide +kernel⟩
  · have hload : ConfigFiles.small.load "etc" = .ok _ := rfl
    exact ⟨_, _, hload, rfl, rfl, rfl, rfl⟩

end BuildDispatch
