import BuildDispatch.Proofs.Library.Lookup
import BuildDispatch.Proofs.Operation.Footprint
import BuildDispatch.Proofs.Session.Steps

/-!
# What a build is linked against

A dispatch looks for the library once, in the world as it is then, and everything that it starts
gets the same environment: the current one, with the directory of a library that was found bound to
one variable. Nothing of this depends on the dispatches before.

## Main statements

* `Session.perform_of_plain`, `Session.perform_of_build`: what is left of a dispatch once its
  operation is known.
* `Session.perform_run`: a dispatch is a prelude, which looks for the library, and its operation.
* `dispatch_linked`: the questions, the environment and the resolution of every dispatch in every
  session.
-/

namespace BuildDispatch

open Run

namespace Session

variable {c : Setup} {s : Session} {o : Operation}

/-- An operation that is no build runs in the plain environment. -/
theorem perform_of_plain (h : o.usesBuildEnv = false) :
    s.perform c o =
      ⟨(s.workshop c).execute o s.invocation.baseEnv, { s with resolution := none }⟩ := by
  unfold perform environmentFor
  rw [if_neg (by simp [h])]
  rfl

/-- The resolution that a build dispatched now ends up with. -/
def resolutionNow (s : Session) : Resolution :=
  s.invocation.library.outcome s.world s.invocation.useSystemLibrary

/-- A build looks for the library and runs in the environment that comes of it. -/
theorem perform_of_build (h : o.usesBuildEnv = true) :
    s.perform c o =
      ⟨do
        let r ← s.invocation.library.resolve c.logger s.world s.invocation.useSystemLibrary
        c.logger.debug ("Native library: " ++ s.resolutionNow.describe)
        (s.workshop c).execute o (r.apply s.invocation.baseEnv),
        { s with resolution := some s.resolutionNow }⟩ := by
  have hresolved := s.invocation.library.resolve_result c.logger s.world
    s.invocation.useSystemLibrary
  have hlookup : { s with resolution := none }.resolveLibrary c =
      ⟨s.invocation.library.resolve c.logger s.world s.invocation.useSystemLibrary,
        { s with resolution := some s.resolutionNow }⟩ := by
    unfold resolveLibrary
    dsimp only
    rw [hresolved]
    rfl
  unfold perform environmentFor
  rw [if_pos h]
  dsimp only
  rw [hlookup]
  dsimp only
  rw [bind_of_ok hresolved, bind_of_ok hresolved, bind_of_ok rfl]
  simp only [pure_events, List.append_nil]
  rfl

/-! ### What a dispatch asks for and starts -/

/-- The environment that a dispatch of the operation gives to what it starts. -/
def environmentNow (s : Session) (o : Operation) : Environment :=
  if o.usesBuildEnv then s.resolutionNow.apply s.invocation.baseEnv else s.invocation.baseEnv

/-- The directory that a dispatch of the operation links against. -/
def foundNow (s : Session) (o : Operation) : Option Text :=
  s.invocation.library.found s.world (o.usesBuildEnv && s.invocation.useSystemLibrary)

theorem environmentNow_eq (s : Session) (o : Operation) :
    s.environmentNow o =
      match s.foundNow o with
      | some d => s.invocation.baseEnv.insert s.invocation.library.searchPathVar d
      | none => s.invocation.baseEnv := by
  unfold environmentNow resolutionNow foundNow
  rw [LibrarySettings.apply_outcome]
  cases o.usesBuildEnv <;> rfl

theorem queries_perform (c : Setup) (s : Session) (o : Operation) :
    (s.perform c o).run.events.queries =
      if o.usesBuildEnv && s.invocation.useSystemLibrary then
        s.world.asked s.invocation.library.lookupPaths
      else [] := by
  cases h : o.usesBuildEnv with
  | false =>
    rw [perform_of_plain h]
    exact Workshop.queries_execute ..
  | true =>
    let said := c.logger.debug ("Native library: " ++ s.resolutionNow.describe)
    have hresult : said.result = .ok () := say_result ..
    have hqueries : said.events.queries = [] := by
      refine Trace.queries_eq_nil ?_
      exact every_say (P := fun ev => ∀ path, ev ≠ .queried path) _ _ _ _ fun _ _ => nofun
    rw [perform_of_build h, bind_of_ok (LibrarySettings.resolve_result ..), bind_of_ok hresult,
      Trace.queries_append, Trace.queries_append, hqueries, Workshop.queries_execute,
      LibrarySettings.queries_resolve]
    simp

/-- What a dispatch does before its operation runs. -/
def prelude (c : Setup) (s : Session) (o : Operation) : Run Unit :=
  if o.usesBuildEnv then do
    let _ ← s.invocation.library.resolve c.logger s.world s.invocation.useSystemLibrary
    c.logger.debug ("Native library: " ++ s.resolutionNow.describe)
  else pure ()

theorem prelude_result (c : Setup) (s : Session) (o : Operation) :
    (s.prelude c o).result = .ok () := by
  unfold prelude
  split
  · rw [bind_of_ok (LibrarySettings.resolve_result ..)]
    exact say_result ..
  · rfl

theorem prelude_every {P : Event → Prop} (hqueried : ∀ path, P (.queried path))
    (hlookup : ∀ level message, level ≤ Log.Level.info →
      P (.logged ⟨level, lookupSource, message⟩))
    (hdebug : ∀ source message, P (.logged ⟨.debug, source, message⟩)) (c : Setup) (s : Session)
    (o : Operation) : (s.prelude c o).Every P := by
  unfold prelude
  split
  · refine (LibrarySettings.resolve_every _ _ _ _ hqueried hlookup).bind fun _ _ => ?_
    exact every_say_of (hdebug _ _) c.logger
  · exact every_pure _

/-- After its prelude a dispatch is its operation. -/
theorem perform_run (c : Setup) (s : Session) (o : Operation) :
    (s.perform c o).run =
      s.prelude c o >>= fun _ => (s.workshop c).execute o (s.environmentNow o) := by
  unfold prelude environmentNow
  cases h : o.usesBuildEnv with
  | false =>
    rw [perform_of_plain h, if_neg Bool.false_ne_true, if_neg Bool.false_ne_true,
      bind_of_ok (pure_result ())]
    rfl
  | true =>
    have hresolved := s.invocation.library.resolve_result c.logger s.world
      s.invocation.useSystemLibrary
    have hsaid : (c.logger.debug ("Native library: " ++ s.resolutionNow.describe)).result =
      .ok () := say_result ..
    rw [perform_of_build h, if_pos rfl, if_pos rfl]
    rw [bind_of_ok hresolved, bind_of_ok hresolved, bind_of_ok hsaid, hsaid, bind_of_ok rfl]
    simp only [List.append_assoc]
    rfl

/-- Apart from its questions, a dispatch does what its operation may do in that environment. -/
theorem perform_every (c : Setup) (s : Session) (o : Operation) :
    (s.perform c o).run.Every fun ev =>
      (∃ path, ev = .queried path) ∨ (s.workshop c).Permits (s.environmentNow o) ev := by
  rw [perform_run]
  refine Every.bind ?_ fun _ _ => ((s.workshop c).execute_every _ o).mono fun _ => Or.inr
  exact prelude_every (fun path => .inl ⟨path, rfl⟩) (fun _ _ _ => .inr trivial)
    (fun _ _ => .inr trivial) c s o

/-- Where neither questions nor the records of a prelude count, a dispatch shows what its operation
shows. -/
theorem perform_shows_of {keep : Event → Bool} (hqueried : ∀ path, keep (.queried path) = false)
    (hlookup : ∀ level message, keep (.logged ⟨level, lookupSource, message⟩) = false)
    (hdebug : ∀ source message, keep (.logged ⟨.debug, source, message⟩) = false) {t : Trace}
    {result : Except Failure Int}
    (h : ((s.workshop c).execute o (s.environmentNow o)).Shows keep t result) :
    (s.perform c o).run.Shows keep t result := by
  rw [perform_run]
  have silent := prelude_every (P := fun ev => keep ev = false) hqueried
    (fun level message _ => hlookup level message) hdebug c s o
  exact Shows.after h (silent.shows (prelude_result c s o))

/-- A dispatch acts as its operation does. -/
theorem perform_shows {t : Trace} {result : Except Failure Int}
    (h : ((s.workshop c).execute o (s.environmentNow o)).Shows Event.isAction t result) :
    (s.perform c o).run.Shows Event.isAction t result :=
  perform_shows_of (fun _ => rfl) (fun _ _ => rfl) (fun _ _ => rfl) h

theorem result_perform (c : Setup) (s : Session) (o : Operation) :
    (s.perform c o).run.result = ((s.workshop c).execute o (s.environmentNow o)).result :=
  (perform_shows ⟨rfl, rfl⟩).result

theorem permits_of_mem_perform {ev : Event} (h : ev ∈ (s.perform c o).run.events)
    (hev : ∀ path, ev ≠ .queried path) : (s.workshop c).Permits (s.environmentNow o) ev := by
  rcases s.perform_every c o ev h with ⟨path, rfl⟩ | permitted
  · exact absurd rfl (hev path)
  · exact permitted

/-- A dispatch leaves behind the resolution of its own lookup, or none. -/
theorem session_perform (c : Setup) (s : Session) (o : Operation) :
    (s.perform c o).session =
      { s with resolution := if o.usesBuildEnv then some s.resolutionNow else none } := by
  cases h : o.usesBuildEnv with
  | false => rw [perform_of_plain h]; rfl
  | true => rw [perform_of_build h]; rfl

end Session

/-! ### Every dispatch of every session -/

/-- The dispatch `p` of the entry `e`, in a session that began with the invocation `i` and is now at
`s`, is linked as the current state of the session and of the world tells. -/
structure Linked (i : Invocation) (s : Session) (e : Entry) (p : Progress Int) : Prop where
  /-- The candidates are asked for in order, up to the first that is there. -/
  queries : p.run.events.queries =
    if e.usesBuildEnv && s.invocation.useSystemLibrary then s.world.asked i.library.lookupPaths
    else []
  directory : ∀ a ∈ p.run.events.attempts, a.directory = some i.rootDir.text
  /-- All that is started gets one environment, where only the search path may differ. -/
  environment : ∃ env,
    (∀ a ∈ p.run.events.attempts, a.environment = env) ∧
    (∀ q ∈ p.run.events.provisions, q.2 = env) ∧
    match i.library.found s.world (e.usesBuildEnv && s.invocation.useSystemLibrary) with
    | some d => s.invocation.baseEnv.IsUpdate i.library.searchPathVar d env
    | none => env = s.invocation.baseEnv
  resolution : p.session.resolution = none ↔ e.usesBuildEnv = false
  directory_eq : ∀ r, p.session.resolution = some r →
    r.directory = i.library.found s.world s.invocation.useSystemLibrary ∧
      r.usesSystemLibrary = r.directory.isSome
  /-- The current environment itself stays as it is. -/
  invocation : p.session.invocation = s.invocation

theorem Session.Regular.perform_linked {c : Setup} {i : Invocation} {s : Session}
    (h : s.Regular c i) (o : Operation) : Linked i s o.entry (s.perform c o) where
  queries := h.library ▸ s.queries_perform c o
  directory a ha := by
    have permitted := permits_of_mem_perform (Trace.mem_attempts.mp ha) (by simp)
    rw [permitted.1, ← h.rootDir]
    rfl
  environment := by
    refine ⟨s.environmentNow o, fun a ha => ?_, fun q hq => ?_, ?_⟩
    · exact (permits_of_mem_perform (Trace.mem_attempts.mp ha) (by simp)).2
    · exact permits_of_mem_perform (Trace.mem_provisions.mp hq) (by simp)
    · have hfound : i.library.found s.world
          (o.entry.usesBuildEnv && s.invocation.useSystemLibrary) = s.foundNow o := by
        rw [← h.library]
        rfl
      rw [hfound, environmentNow_eq, h.library]
      cases s.foundNow o with
      | none => rfl
      | some d => exact Bindings.insert_isUpdate ..
  resolution := by
    rw [session_perform]
    unfold Operation.usesBuildEnv
    cases o.entry.usesBuildEnv <;> simp
  directory_eq r hr := by
    rw [session_perform] at hr
    cases hbuild : o.usesBuildEnv with
    | false => simp [hbuild] at hr
    | true =>
      obtain rfl : s.resolutionNow = r := by simpa [hbuild] using hr
      rw [resolutionNow, LibrarySettings.usesSystemLibrary_outcome,
        LibrarySettings.directory_outcome, h.library]
      exact ⟨rfl, rfl⟩
  invocation := by rw [session_perform]

/-- Whatever happened in a session before, a dispatch is linked as its current state tells. -/
theorem dispatch_linked {files : ConfigFiles} {directory : Text} {config : Configuration}
    (hload : files.load directory = .ok config) {c : Setup}
    (hc : c.catalogue = config.catalogue) (w : World) (i : Invocation)
    (history : List Session.Step) {name : Text} {e : Entry}
    (hname : config.catalogue.find? name = some e) :
    let s := ({ world := w, invocation := i } : Session).after c history
    Linked i s e (s.dispatch c name) := by
  intro s
  rw [← hc] at hname
  have ready : c.catalogue.Ready := hc ▸ ConfigFiles.ready_of_load hload
  have regular : s.Regular c i := (Session.regular_start c w i).after ready history
  obtain ⟨inst, kept, ho, hobtain⟩ := regular.obtain_eq_ok ready hname
  have made := regular.obtain ready name
  rw [hobtain] at made
  have linked := made.perform_linked inst.operation
  rw [Session.dispatch_of_ok hobtain]
  rw [Operation.entry_of_ofEntry ho] at linked
  -- The session after `obtain` differs in the operations it keeps, and no clause speaks of them.
  exact ⟨linked.queries, linked.directory, linked.environment, linked.resolution,
    linked.directory_eq, linked.invocation⟩

/-- A machine with the library in its second place alone. -/
def optMachine : World := { World.nowhere with
  present := fun path => path == "/opt/lib/libz.so"
  isDirectory := fun _ => true }

/-- System copies are ruled out for one build, and a search path is set by hand. -/
def earlierSteps : List Session.Step :=
  [.dispatch "audit", .setUseSystem false, .dispatch "build", .setUseSystem true,
    .setVariable "Z_DIR" "/old", .setVariable "LANG" "C", .setWorld optMachine]

theorem build_linked : ∃ config, ConfigFiles.small.load "etc" = .ok config ∧
    let c : Setup := { catalogue := config.catalogue, logger := {} }
    let i : Invocation :=
      { rootDir := .ofText "/work", toolchain := "cargo", library := config.library,
        baseEnv := .ofList [("PATH", "/bin")] }
    let s := ({ world := .nowhere, invocation := i } : Session).after c earlierSteps
    let p := s.dispatch c "b"
    p.run.events.queries = ["/usr/lib/libz.so", "/opt/lib/libz.so"] ∧
    ∃ env : Environment, (∀ a ∈ p.run.events.attempts, a.environment = env) ∧
      (Bindings.ofList [("PATH", "/bin"), ("Z_DIR", "/old"), ("LANG", "C")] :
        Environment).IsUpdate "Z_DIR" "/opt/lib" env := by
  have hload : ConfigFiles.small.load "etc" = .ok _ := rfl
  refine ⟨_, hload, ?_⟩
  intro c i s p
  have linked := @dispatch_linked _ _ _ hload c rfl .nowhere i earlierSteps "b" _ rfl
  obtain ⟨env, hattempts, -, hupdate⟩ := linked.environment
  exact ⟨linked.queries, env, hattempts, hupdate⟩

end BuildDispatch
