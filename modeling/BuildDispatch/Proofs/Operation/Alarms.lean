import BuildDispatch.Proofs.Operation.Obstacles

/-!
# Alarms

An error is logged in four places: where a program is missing that is not run quietly, where an
installation fails, and where the command of a forward or of a helper operation fails. Each of them
passes on a status other than zero. The one place where such a status is not passed on, the check
for a tool, runs its command quietly. So an operation is candid: it logs an error exactly if it
comes to a bad status. What fails has no status, and then no error is logged either.

## Main statements

* `Run.Mild.bind`, `Run.Candid.bind`: how runs that keep to this are put together.
* `Workshop.execute_candid`: every operation is candid if the toolchain installs the tools.
* `failures_logged`: the same for every dispatch of every session, and a tool that had to be
  installed leaves no error behind.
-/

namespace BuildDispatch

open Run

/-- Records of errors. -/
def Event.isAlarm : Event → Bool
  | .logged r => r.level = .error
  | _ => false

/-! ### Runs that log errors -/

namespace Run

variable {α β : Type} {P : α → Prop} {Q : β → Prop} {r : Run α} {f : α → Run β}

/-- No error is logged. -/
def Calm (r : Run α) : Prop := r.Every fun ev => ev.isAlarm = false

/-- No error is logged without a bad answer, the good ones being as `P` says. -/
def Mild (P : α → Prop) (r : Run α) : Prop := (∀ a, r.result = .ok a → P a) → r.Calm

/-- An error is logged exactly if there is a bad answer. -/
def Candid (P : α → Prop) (r : Run α) : Prop := r.Calm ↔ ∀ a, r.result = .ok a → P a

theorem calm_iff : r.Calm ↔ ∀ record ∈ r.events.records, record.level ≠ .error := by
  simp only [Trace.mem_records]
  constructor
  · intro h record hrecord
    simpa [Event.isAlarm] using h _ hrecord
  · intro h ev hev
    cases ev with
    | logged record => simpa [Event.isAlarm] using h record hev
    | _ => rfl

theorem calm_bind_of_ok {a : α} (h : r.result = .ok a) :
    (r >>= f).Calm ↔ r.Calm ∧ (f a).Calm := by
  rw [bind_of_ok h]
  simp only [Calm, Every, List.mem_append]
  grind

theorem calm_say {level : Log.Level} (h : level ≠ .error) (l : Log.Logger)
    (source message : Text) : (l.say level source message).Calm :=
  every_say_of (by simpa [Event.isAlarm] using h) l

/-- Errors are kept at either verbosity. -/
theorem not_calm_error (l : Log.Logger) (message : Text) : ¬ (l.error message).Calm := by
  rw [Log.Logger.error, say_of_info_le (by decide)]
  intro h
  cases h _ (List.mem_singleton_self _)

theorem Calm.mild (h : r.Calm) : r.Mild P := fun _ => h

theorem Calm.candid (h : r.Calm) (hgood : ∀ a, r.result = .ok a → P a) : r.Candid P :=
  iff_of_true h hgood

theorem Mild.mono (h : r.Mild P) {P' : α → Prop} (hP : ∀ a, P' a → P a) :
    r.Mild P' :=
  fun hall => h fun a ha => hP a (hall a ha)

/-- A bad answer of the first run has to be seen in the second. -/
theorem Mild.bind_mild (hr : r.Mild P) (hf : ∀ a, (f a).Mild Q)
    (hgood : ∀ a, (∀ b, (f a).result = .ok b → Q b) → P a) : (r >>= f).Mild Q := by
  intro hall
  cases hresult : r.result with
  | error e =>
    have hcalm : r.Calm := hr (by simp [hresult])
    rw [bind_of_error hresult]
    exact hcalm
  | ok a =>
    -- What the second run answers tells of the first answer, so the first run was calm, too.
    rw [bind_of_ok hresult] at hall
    have hcalm : r.Calm := hr (by simpa [hresult] using hgood a hall)
    exact (calm_bind_of_ok hresult).mpr ⟨hcalm, hf a hall⟩

/-- The second run makes up for what the first leaves open. -/
theorem Mild.bind (hr : r.Mild P) (hf : ∀ a, (f a).Candid Q)
    (hgood : ∀ a, (∀ b, (f a).result = .ok b → Q b) → P a) : (r >>= f).Candid Q := by
  refine ⟨fun hcalm => ?_, hr.bind_mild (fun a => (hf a).mpr) hgood⟩
  cases hresult : r.result with
  | error e => simp [bind_of_error hresult]
  | ok a =>
    rw [bind_of_ok hresult]
    exact (hf a).mp ((calm_bind_of_ok hresult).mp hcalm).2

/-- After a bad answer, of which an error was logged, the second run only has to stay with it. -/
theorem Candid.bind (hr : r.Candid P) (hf : ∀ a, P a → (f a).Candid Q)
    (hbad : ∀ a, ¬ P a → ∃ b, (f a).result = .ok b ∧ ¬ Q b) :
    (r >>= f).Candid Q := by
  unfold Candid
  cases hresult : r.result with
  | error e =>
    have hcalm : r.Calm := hr.mpr (by simp [hresult])
    rw [bind_of_error hresult]
    exact iff_of_true hcalm (by simp)
  | ok a =>
    rw [calm_bind_of_ok hresult, bind_of_ok hresult]
    have hcalm : r.Calm ↔ P a := hr.trans (by simp [hresult])
    by_cases ha : P a
    · rw [and_iff_right (hcalm.mpr ha)]
      exact hf a ha
    · obtain ⟨b, hb, hnot⟩ := hbad a ha
      exact iff_of_false (fun h => ha (hcalm.mp h.1)) fun hall => hnot (hall b hb)

theorem Calm.bind_mild (hr : r.Calm) (hf : ∀ a, (f a).Mild Q) : (r >>= f).Mild Q :=
  Mild.bind_mild (P := fun _ => True) hr.mild hf fun _ _ => trivial

theorem Calm.bind (hr : r.Calm) (hf : ∀ a, (f a).Candid Q) : (r >>= f).Candid Q :=
  Mild.bind (P := fun _ => True) hr.mild hf fun _ _ => trivial

theorem result_say_pure (l : Log.Logger) (level : Log.Level) (source message : Text) (a : α) :
    (do l.say level source message; pure a : Run α).result = .ok a := by
  rw [bind_of_ok (say_result ..)]
  rfl

/-- The answer may be given after the error. -/
theorem candid_error {a : α} (h : ¬ P a) (l : Log.Logger) (message : Text) :
    (do l.error message; pure a : Run α).Candid P := by
  have hsaid : (l.error message).result = .ok () := say_result ..
  refine iff_of_false (fun hcalm => ?_) fun hall => h (hall a (result_say_pure ..))
  exact not_calm_error l message ((calm_bind_of_ok hsaid).mp hcalm).1

theorem candid_say {a : α} (h : P a) {level : Log.Level} (hlevel : level ≠ .error)
    (l : Log.Logger) (source message : Text) :
    (do l.say level source message; pure a : Run α).Candid P :=
  (calm_say hlevel l source message).bind fun _ => Calm.candid (every_pure a) (by simpa using h)

end Run

/-! ### Commands -/

namespace Runner

/-- Whoever is told that a program is missing has to answer with something bad. -/
theorem reportMissing_mild {α : Type} {P : α → Prop} {a : α} (h : ¬ P a) (r : Runner)
    (command : List Text) : (do r.reportMissing command; pure a : Run α).Mild P := by
  intro hall
  cases command with
  | nil => exact every_of_nil rfl
  | cons program args =>
    have shows : (do r.reportMissing (program :: args); pure a : Run α).Shows Event.isAction []
        (.ok a) := Shows.after (shows_pure a) (r.reportMissing_shows program args)
    exact absurd (hall a shows.result) h

/-- A command that is run quietly logs no error, whatever comes of it. -/
theorem run_mild (r : Runner) (w : World) (command : List Text) (env : Environment) (d : Text)
    (quiet : Bool) :
    (r.run w command env (some d) quiet).Mild fun status => quiet = true ∨ status = 0 := by
  unfold run
  refine (calm_say (by decide) _ _ _).bind_mild fun _ => ?_
  refine (calm_say (by decide) _ _ _).bind_mild fun _ => ?_
  split
  · exact (calm_say (by decide) _ _ _).bind_mild fun _ => Calm.mild (every_pure _)
  · refine Calm.bind_mild (checkDirectory_every _ _) fun _ => ?_
    refine Calm.bind_mild (attempt_every w rfl) fun found => ?_
    cases found with
    | some finished => exact Calm.mild (every_pure _)
    | none =>
      cases quiet with
      | true => exact Calm.mild (every_pure _)
      | false => exact reportMissing_mild (by simp [commandNotFound]) r command

theorem stream_mild (r : Runner) (w : World) (command : List Text) (env : Environment)
    (d : Option Text) (f : LineFilter) :
    (r.stream w command env d f).Mild fun found => found.1 = 0 := by
  unfold stream
  refine (calm_say (by decide) _ _ _).bind_mild fun _ => ?_
  split
  · exact (calm_say (by decide) _ _ _).bind_mild fun _ => Calm.mild (every_pure _)
  · refine Calm.bind_mild (checkDirectory_every _ _) fun _ => ?_
    refine Calm.bind_mild (attempt_every w rfl) fun found => ?_
    cases found with
    | some finished =>
      have silent := filterLines_every (P := fun ev => ev.isAlarm = false) (fun _ => rfl)
      refine Calm.bind_mild (every_emitAll (silent _ _ _)) fun _ => ?_
      exact Calm.mild (every_pure _)
    | none => exact reportMissing_mild (by simp [commandNotFound]) r command

end Runner

/-! ### Operations -/

namespace Workshop

section Candid

variable (s : Workshop) (e : Entry) (env : Environment)

/-- The command of an operation is run aloud. -/
theorem run_mild (command : List Text) : (s.run command env false).Mild (· = 0) :=
  (s.runner.run_mild s.world command env s.rootDir false).mono fun _ => Or.inr

theorem judged_candid (name : Text) (status : Int) :
    (do s.judge name status; pure status : Run Int).Candid (· = 0) := by
  unfold judge
  split
  · next hstatus => exact candid_error (P := (· = 0)) hstatus s.runner.logger _
  · next hstatus =>
    refine Calm.bind (every_pure _) fun _ => Calm.candid (every_pure _) ?_
    simpa using hstatus

theorem forwardBy_candid {run : List Text → Run Int}
    (hrun : ∀ command, (run command).Mild (· = 0)) :
    (s.forwardBy e run).Candid (· = 0) := by
  unfold forwardBy
  refine Calm.bind (every_ofResult _) fun command => ?_
  refine Calm.bind (calm_say (by decide) _ _ _) fun _ => ?_
  refine (hrun command).bind (s.judged_candid e.name) fun status hall => ?_
  exact hall status (s.judged_result e.name status)

theorem runTagged_mild (tag : Text) (command : List Text) :
    (s.runTagged tag command env).Mild (· = 0) := by
  unfold runTagged
  refine Calm.bind_mild (every_ofResult _) fun f => ?_
  have streamed := s.runner.stream_mild s.world command env (some s.rootDir) f
  refine streamed.bind_mild (fun found => ?_) fun found hall => ?_
  · exact (calm_say (by decide) _ _ _).bind_mild fun _ => Calm.mild (every_pure _)
  · exact hall found.1 (result_say_pure ..)

theorem forward_candid : (s.forward e env).Candid (· = 0) := by
  cases hsome : e.outputFilter.isNothing with
  | true =>
    rw [forward_of_plain hsome]
    exact s.forwardBy_candid e (s.run_mild env)
  | false =>
    by_cases htext : ∀ tag, e.outputFilter.view ≠ .str tag
    · rw [forward_of_noText hsome htext]
      exact s.forwardBy_candid e fun _ => Calm.mild (every_fail _)
    · obtain ⟨tag, hview⟩ := not_forall_not.mp htext
      rw [forward_of_tag hsome hview]
      exact s.forwardBy_candid e (s.runTagged_mild env tag)

/-- The check for a tool is run quietly. -/
theorem isAvailable_mild (tool : HelperTool) :
    (s.isAvailable e tool env).Mild fun _ => True := by
  unfold isAvailable
  refine Calm.bind_mild (every_ofResult _) fun command => ?_
  refine (calm_say (by decide) _ _ _).bind_mild fun _ => ?_
  have ran := s.runner.run_mild s.world command env s.rootDir true
  exact ran.bind_mild (fun _ => Calm.mild (every_pure _)) fun _ _ => .inl rfl

theorem install_candid (tool : HelperTool) : (s.install tool env).Candid (· = 0) := by
  unfold install
  refine Calm.bind (calm_say (by decide) _ _ _) fun _ => ?_
  refine (s.run_mild env _).bind (fun status => ?_) fun status hall => ?_
  · split
    · next hstatus => exact candid_error (P := (· = 0)) hstatus s.runner.logger _
    · next hstatus =>
      exact candid_say (P := (· = 0)) (not_not.mp hstatus) (by decide) s.runner.logger _ _
  · by_contra hstatus
    rw [if_pos hstatus] at hall
    exact hstatus (hall status (result_say_pure ..))

variable {s} (hself : s.provisioner = .toolchain)

include hself

theorem ensure_candid (tool : HelperTool) : (s.ensure e tool env).Candid (· = 0) := by
  refine (s.isAvailable_mild e env tool).bind (fun found => ?_) fun _ _ => trivial
  split
  · exact candid_say (P := (· = 0)) rfl (by decide) s.runner.logger _ _
  · refine Calm.bind (calm_say (by decide) _ _ _) fun _ => ?_
    unfold provision
    rw [hself]
    exact s.install_candid env tool

theorem helper_candid (tool : HelperTool) : (s.helper e tool env).Candid (· = 0) := by
  refine (ensure_candid e env hself tool).bind (fun ready hready => ?_) fun ready hready => ?_
  · rw [if_neg (not_not.mpr hready)]
    exact s.forwardBy_candid e (s.run_mild env)
  · exact ⟨ready, by rw [if_pos hready]; rfl, hready⟩

theorem execute_candid (o : Operation) : (s.execute o env).Candid (· = 0) := by
  cases o with
  | forward e => exact s.forward_candid e env
  | helper e tool => exact helper_candid e env hself tool
  | info e =>
    refine Calm.bind (Sink.writeAll_every (fun _ => rfl) _ _) fun _ => ?_
    exact Calm.candid (every_pure _) (by simp)

end Candid

/-! ### Tools that have to be installed -/

/-- The check for the tool fails, its installation succeeds, and so does the operation's command. -/
structure Recovers (s : Workshop) (e : Entry) (tool : HelperTool) : Prop where
  real : s.runner.dryRun = false
  isDirectory : s.world.isDirectory (Path.ofText s.rootDir).text = true
  absent : ∃ check status, e.command s.toolchain tool.checkArgs = .ok check ∧
    s.world.statusOf check = .ok status ∧ status ≠ 0
  installed : s.world.Succeeds (s.toolchain :: tool.installArgs)
  done : ∃ main, e.command s.toolchain e.args = .ok main ∧ s.world.Succeeds main

theorem Recovers.result_helper {s : Workshop} {e : Entry} {tool : HelperTool}
    (h : s.Recovers e tool) (hself : s.provisioner = .toolchain) (env : Environment) :
    (s.helper e tool env).result = .ok 0 := by
  obtain ⟨check, status, hcheck, hstatus, habsent⟩ := h.absent
  obtain ⟨main, hmain, hdone⟩ := h.done
  cases hselector : e.selector with
  | error cause =>
    cases (Entry.command_of_selector_error hselector ..).symm.trans hmain
  | ok selector =>
    obtain rfl := Except.ok.inj ((Entry.command_of_selector hselector ..).symm.trans hcheck)
    obtain rfl := Except.ok.inj ((Entry.command_of_selector hselector ..).symm.trans hmain)
    have hinstall : (s.installStage tool env).ending = .ok 0 := by
      unfold installStage
      rw [hself]
      exact World.statusOf_eq_ok_zero_iff.mpr h.installed
    have hcourse : Course (s.checkStage selector tool env) (s.installStage tool env)
        (s.mainStage selector e env) _ _ := .installed hstatus habsent hinstall
    have shows := helper_shows h.real h.isDirectory hselector hcourse
    exact shows.result.trans (World.statusOf_eq_ok_zero_iff.mpr hdone)

end Workshop

/-! ### Every dispatch of every session -/

namespace Session

variable {c : Setup} (hself : c.provisioner = .toolchain)

include hself

theorem perform_candid (s : Session) (o : Operation) : (s.perform c o).run.Candid (· = 0) := by
  rw [perform_run]
  refine Calm.bind (prelude_every (fun _ => rfl) (fun level _ hlevel => ?_) (fun _ _ => rfl) c s o)
    fun _ => Workshop.execute_candid _ hself o
  have hlow : level ≠ Log.Level.error := by
    rintro rfl
    exact absurd hlevel (by decide)
  simpa [Event.isAlarm] using hlow

theorem dispatch_candid (s : Session) (name : Text) : (s.dispatch c name).run.Candid (· = 0) := by
  rcases hs : s.obtain c name with ⟨failure | inst, t⟩
  · rw [dispatch_of_error hs]
    exact Calm.candid (every_of_nil rfl) nofun
  · rw [dispatch_of_ok hs]
    exact perform_candid hself t inst.operation

end Session

/-- Where the toolchain installs the tools, a dispatch that returns has logged an error exactly if
its status is not zero, and a dispatch that fails has logged none. A tool that is missing is no
error as long as it can be installed. -/
theorem failures_logged {files : ConfigFiles} {directory : Text} {config : Configuration}
    (hload : files.load directory = .ok config) {c : Setup}
    (hc : c.catalogue = config.catalogue) (hself : c.provisioner = .toolchain) (w : World)
    (i : Invocation) (history : List Session.Step) (name : Text) :
    let s := ({ world := w, invocation := i } : Session).after c history
    let p := s.dispatch c name
    (∀ status, p.run.result = .ok status →
      (status ≠ 0 ↔ ∃ r ∈ p.run.events.records, r.level = .error)) ∧
    (∀ failure, p.run.result = .error failure →
      ∀ r ∈ p.run.events.records, r.level ≠ .error) ∧
    ∀ e tool, config.catalogue.find? name = some e → e.kind = .helper → e.helper = some tool →
      (s.workshop c).Recovers e tool →
        p.run.result = .ok 0 ∧ ∀ r ∈ p.run.events.records, r.level ≠ .error := by
  intro s p
  have candid : p.run.Candid (· = 0) := Session.dispatch_candid hself s name
  refine ⟨fun status hstatus => ?_, fun failure hfailure => ?_, ?_⟩
  · have hcalm : p.run.Calm ↔ status = 0 := candid.trans (by simp [hstatus])
    rw [Ne, ← hcalm, calm_iff]
    simp
  · exact calm_iff.mp (candid.mpr (by simp [hfailure]))
  · intro e tool hname hkind htool recovers
    have regular : s.Regular c i := Session.regular_after_of_load hload hc w i history
    obtain ⟨o, kept, ho, hp⟩ : ∃ o kept, Operation.ofEntry e = .ok o ∧
        p = { s with instances := kept }.perform c o :=
      Session.exists_perform_of_load hload hc regular hname
    obtain rfl : o = .helper e tool := by
      simpa [Operation.ofEntry, hkind, htool] using ho.symm
    have hresult : p.run.result = .ok 0 := by
      rw [hp, Session.result_perform]
      exact recovers.result_helper hself _
    exact ⟨hresult, calm_iff.mp (candid.mpr (by simp [hresult]))⟩

/-- In this place, too, the tool for audits is missing, but once it is installed audits succeed. -/
def repairShop : World :=
  { auditShop.world with
    outcome := fun command =>
      if command.contains "--version" then .exited 101 [] else .exited 0 [] }

/-- An audit that is killed, and one that succeeds later on. -/
theorem audits_logged : ∃ config e tool, ConfigFiles.small.load "etc" = .ok config ∧
    config.catalogue.find? "audit" = some e ∧ e.kind = .helper ∧ e.helper = some tool ∧
    let c : Setup := { catalogue := config.catalogue, logger := {} }
    let start : Session := { world := auditShop.world, invocation := config.invocation }
    let s := start.after c [.dispatch "audit", .setWorld repairShop]
    (∃ r ∈ (start.dispatch c "audit").run.events.records, r.level = .error) ∧
    (s.workshop c).Recovers e tool ∧
    (s.dispatch c "audit").run.result = .ok 0 ∧
    ∀ r ∈ (s.dispatch c "audit").run.events.records, r.level ≠ .error := by
  have hload : ConfigFiles.small.load "etc" = .ok _ := rfl
  refine ⟨_, _, _, hload, rfl, rfl, rfl, ?_⟩
  intro c start s
  have killed := @failures_logged _ _ _ hload c rfl rfl start.world start.invocation [] "audit"
  have repaired := @failures_logged _ _ _ hload c rfl rfl start.world start.invocation
    [.dispatch "audit", .setWorld repairShop] "audit"
  suffices recovers : (s.workshop c).Recovers _ _ from
    ⟨(killed.1 (-9) rfl).mp (by decide), recovers, repaired.2.2 _ _ rfl rfl rfl recovers⟩
  exact ⟨rfl, rfl, ⟨_, 101, rfl, rfl, by decide⟩, ⟨[], rfl⟩, _, rfl, [], rfl⟩

end BuildDispatch
