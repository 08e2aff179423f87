import BuildDispatch.Proofs.Session.Linkage

/-!
# The past of a session does not matter

A session keeps the operations that it has made ready, the last resolution and what it has handed
out. None of this can be seen in a dispatch: it runs like the same dispatch in a session that has
only just begun, with the invocation as it stands.

## Main statements

* `Session.perform_congr`: what is left of a dispatch depends on the world and the invocation.
* `dispatch_eq_fresh`: every dispatch of every session is like one in a fresh session.
-/

namespace BuildDispatch

namespace Session

/-- A session that begins now, with the invocation as it stands. -/
def fresh (s : Session) : Session := { world := s.world, invocation := s.invocation }

/-- Two dispatches that nobody can tell apart: the same events in the same order, the same result,
and the same resolution afterwards. -/
structure SameDispatch (p q : Progress Int) : Prop where
  run : p.run = q.run
  resolution : p.session.resolution = q.session.resolution

theorem perform_congr {s t : Session} (hworld : s.world = t.world)
    (hinvocation : s.invocation = t.invocation) (c : Setup) (o : Operation) :
    SameDispatch (s.perform c o) (t.perform c o) := by
  have hworkshop : s.workshop c = t.workshop c := by
    rw [workshop, workshop, hworld, hinvocation]
  have hresolution : s.resolutionNow = t.resolutionNow := by
    rw [resolutionNow, resolutionNow, hworld, hinvocation]
  cases hbuild : o.usesBuildEnv with
  | false =>
    rw [perform_of_plain hbuild, perform_of_plain hbuild, hworkshop, hinvocation]
    exact ⟨rfl, rfl⟩
  | true =>
    rw [perform_of_build hbuild, perform_of_build hbuild, hworkshop, hresolution, hworld,
      hinvocation]
    exact ⟨rfl, rfl⟩

/-- In two regular sessions a name leads to the same operation, whether it was kept or is new. -/
theorem Regular.obtain_operation_eq {c : Setup} (hc : c.catalogue.Ready) {i j : Invocation}
    {s t : Session} (hs : s.Regular c i) (ht : t.Regular c j) {name : Text} {e : Entry}
    (hname : c.catalogue.find? name = some e) :
    ∃ inst inst' kept kept', inst.operation = inst'.operation ∧
      s.obtain c name = (.ok inst, { s with instances := kept }) ∧
      t.obtain c name = (.ok inst', { t with instances := kept' }) := by
  obtain ⟨inst, kept, ho, hobtain⟩ := hs.obtain_eq_ok hc hname
  obtain ⟨inst', kept', ho', hobtain'⟩ := ht.obtain_eq_ok hc hname
  have hsame : inst.operation = inst'.operation := Except.ok.inj (ho.symm.trans ho')
  exact ⟨inst, inst', kept, kept', hsame, hobtain, hobtain'⟩

end Session

/-- Whatever steps a session has taken, failed ones among them, its next dispatch is like the first
one of a fresh session. -/
theorem dispatch_eq_fresh {files : ConfigFiles} {directory : Text} {config : Configuration}
    (hload : files.load directory = .ok config) {c : Setup}
    (hc : c.catalogue = config.catalogue) (w : World) (i : Invocation)
    (history : List Session.Step) {name : Text} (hname : name ∈ config.catalogue.keys) :
    let s := ({ world := w, invocation := i } : Session).after c history
    Session.SameDispatch (s.dispatch c name) (s.fresh.dispatch c name) := by
  intro s
  rw [← hc] at hname
  obtain ⟨e, he⟩ : ∃ e, c.catalogue.find? name = some e := by
    rw [← Option.isSome_iff_exists]
    exact (Bindings.contains_iff_mem_keys _ name).mpr hname
  have ready : c.catalogue.Ready := hc ▸ ConfigFiles.ready_of_load hload
  have regular : s.Regular c i := (Session.regular_start c w i).after ready history
  have regular' : s.fresh.Regular c s.invocation := Session.regular_start c s.world s.invocation
  obtain ⟨inst, inst', kept, kept', hsame, hobtain, hobtain'⟩ :=
    regular.obtain_operation_eq ready regular' he
  rw [Session.dispatch_of_ok hobtain, Session.dispatch_of_ok hobtain', hsame]
  exact Session.perform_congr (s := { s with instances := kept })
    (t := { s.fresh with instances := kept' }) rfl rfl c _

/-- Some steps of all sorts, of which four fail. -/
def mixedSteps : List Session.Step :=
  [.dispatch "nothing", .get "b", .get "build", .isAvailable "build" .empty, .dispatch "audit",
    .environmentFor "b" (some (.bundled "Z_DIR")), .resolveLibrary, .setVariable "Z_DIR" "/old",
    .setWorld optMachine, .execute "nothing" .empty]

theorem build_eq_fresh : ∃ config, ConfigFiles.small.load "etc" = .ok config ∧
    let c : Setup := { catalogue := config.catalogue, logger := {} }
    let i : Invocation :=
      { rootDir := .ofText "/work", toolchain := "cargo", library := config.library,
        baseEnv := .ofList [("PATH", "/bin")] }
    let s := ({ world := .nowhere, invocation := i } : Session).after c mixedSteps
    ("b" : Text) ∈ config.catalogue.keys ∧
      Session.SameDispatch (s.dispatch c "b") (s.fresh.dispatch c "b") := by
  have hload : ConfigFiles.small.load "etc" = .ok _ := rfl
  refine ⟨_, hload, ?_⟩
  intro c i s
  have hname : ("b" : Text) ∈ c.catalogue.keys := by decide
  exact ⟨hname, dispatch_eq_fresh hload rfl .nowhere i mixedSteps hname⟩

end BuildDispatch
