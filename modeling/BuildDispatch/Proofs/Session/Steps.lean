import BuildDispatch.Session
import BuildDispatch.Proofs.Config.Entry

/-!
# Sessions over time

What stays true of a session, whatever steps are taken. A session never forgets with what it began,
and every operation that it keeps ready is the one that its catalogue declares under that name, so
that it does not matter when the operation was made ready.

## Main statements

* `Session.obtain_cases`: all that can come of asking for an operation.
* `Session.Regular.step`, `Session.Regular.after`: the invariant, for one step and for many.
* `Session.Regular.obtain_eq_ok`: a regular session hands out what the catalogue declares.
-/

namespace BuildDispatch

namespace Session

variable {c : Setup} {s : Session} {i : Invocation}

/-- The session after some steps. -/
def after (c : Setup) (s : Session) (history : List Step) : Session :=
  history.foldl (fun s st => (s.step c st).session) s

/-! ### Asking for an operation -/

/-- What asking for an operation may come to. -/
inductive Obtained (c : Setup) (s : Session) (name : Text) :
    Except Failure Instance × Session → Prop
  | unknown (hname : c.catalogue.find? name = none) :
    Obtained c s name (.error (.unknownOperation name c.catalogue.keys), s)
  | kept {e : Entry} {i : Instance} (hname : c.catalogue.find? name = some e)
    (hi : s.instances.find? e.name = some i) : Obtained c s name (.ok i, s)
  | failed {e : Entry} {failure : Failure} (hname : c.catalogue.find? name = some e)
    (hnew : s.instances.find? e.name = none) (he : Operation.ofEntry e = .error failure) :
    Obtained c s name (.error failure, s)
  | made {e : Entry} {i : Instance} (hname : c.catalogue.find? name = some e)
    (hnew : s.instances.find? e.name = none) (he : Operation.ofEntry e = .ok i.operation) :
    Obtained c s name (.ok i, { s with instances := s.instances.insert e.name i })

theorem obtain_cases (c : Setup) (s : Session) (name : Text) :
    Obtained c s name (s.obtain c name) := by
  unfold obtain
  cases hname : c.catalogue.find? name with
  | none => exact .unknown hname
  | some e =>
    dsimp only
    cases hi : s.instances.find? e.name with
    | some i => exact .kept hname hi
    | none =>
      dsimp only
      cases he : Operation.ofEntry e with
      | error failure => exact .failed hname hi he
      | ok operation => exact .made hname hi he

/-! ### Going on with an operation -/

/-- What a dispatch does once it has its operation. -/
def perform (c : Setup) (s : Session) (o : Operation) : Progress Int :=
  let p := { s with resolution := none }.environmentFor c o none
  ⟨do
    let env ← p.run
    p.session.announceLibrary c
    (p.session.workshop c).execute o env, p.session⟩

section Obtained

variable {t : Session} {name : Text} {failure : Failure} {inst : Instance}

theorem dispatch_of_error (h : s.obtain c name = (.error failure, t)) :
    s.dispatch c name = t.still (.error failure) := by
  rw [dispatch, h]

theorem dispatch_of_ok (h : s.obtain c name = (.ok inst, t)) :
    s.dispatch c name = t.perform c inst.operation := by
  rw [dispatch, h]
  rfl

theorem withOperation_of_error (h : s.obtain c name = (.error failure, t))
    (f : Session → Instance → Progress Answer) :
    s.withOperation c name f = t.still (.error failure) := by
  rw [withOperation, h]

theorem withOperation_of_ok (h : s.obtain c name = (.ok inst, t))
    (f : Session → Instance → Progress Answer) : s.withOperation c name f = f t inst := by
  rw [withOperation, h]

end Obtained

/-! ### The invariant -/

/-- The operation kept under a name is the one that the catalogue declares under it. -/
def Declared (c : Setup) (key : Text) (o : Operation) : Prop :=
  ∃ e, c.catalogue.find? key = some e ∧ e.name = key ∧ Operation.ofEntry e = .ok o

/-- What is true of a session at any time after it began with the invocation `i`. -/
structure Regular (c : Setup) (i : Invocation) (s : Session) : Prop where
  declared : ∀ key inst, s.instances.find? key = some inst →
    Declared c key inst.operation
  library : s.invocation.library = i.library
  rootDir : s.invocation.rootDir = i.rootDir
  toolchain : s.invocation.toolchain = i.toolchain
  dryRun : s.invocation.dryRun = i.dryRun

theorem regular_start (c : Setup) (w : World) (i : Invocation) :
    Regular c i { world := w, invocation := i } where
  declared key inst h := by simp at h
  library := rfl
  rootDir := rfl
  toolchain := rfl
  dryRun := rfl

/-- The invariant is about the operations and the invocation alone. -/
theorem Regular.congr (h : s.Regular c i) {t : Session} (hinst : t.instances = s.instances)
    (hinv : t.invocation = s.invocation) : t.Regular c i where
  declared := hinst ▸ h.declared
  library := hinv ▸ h.library
  rootDir := hinv ▸ h.rootDir
  toolchain := hinv ▸ h.toolchain
  dryRun := hinv ▸ h.dryRun

section Ready

variable (hc : c.catalogue.Ready)

include hc

theorem Regular.obtain (h : s.Regular c i) (name : Text) : (s.obtain c name).2.Regular c i := by
  cases hs : s.obtain c name with
  | mk result t =>
    have cases := obtain_cases c s name
    rw [hs] at cases
    cases cases with
    | unknown => exact h
    | kept => exact h
    | failed => exact h
    | @made e new hname hnew he =>
      -- What is new goes under the name of its entry, whatever name was asked for.
      refine { h with declared := fun key found hfound => ?_ }
      rcases Bindings.find?_insert_eq_some_iff.mp hfound with ⟨rfl, rfl⟩ | ⟨-, hfound⟩
      · exact ⟨e, hc.find?_name hname, rfl, he⟩
      · exact h.declared key found hfound

omit hc in
theorem Regular.resolveLibrary (h : s.Regular c i) : (s.resolveLibrary c).session.Regular c i := by
  unfold Session.resolveLibrary
  dsimp only
  split
  · exact h.congr rfl rfl
  · exact h

omit hc in
theorem Regular.environmentFor (h : s.Regular c i) (o : Operation) (given : Option Resolution) :
    (s.environmentFor c o given).session.Regular c i := by
  unfold Session.environmentFor
  split
  · cases given with
    | some r => exact h
    | none => exact h.resolveLibrary
  · exact h

theorem Regular.dispatch (h : s.Regular c i) (name : Text) :
    (s.dispatch c name).session.Regular c i := by
  have ready := h.obtain hc name
  rcases hs : s.obtain c name with ⟨failure | inst, t⟩ <;> rw [hs] at ready
  · rw [dispatch_of_error hs]
    exact ready
  · rw [dispatch_of_ok hs]
    exact (ready.congr rfl rfl : Regular c i { t with resolution := none }).environmentFor _ none

omit hc in
theorem Regular.handOut (h : s.Regular c i) (inst : Instance) :
    (s.handOut inst).session.Regular c i := by
  unfold Session.handOut
  split
  · exact h
  · exact h.congr rfl rfl

theorem Regular.withOperation (h : s.Regular c i) (name : Text)
    {f : Session → Instance → Progress Answer}
    (hf : ∀ {t}, t.Regular c i → ∀ inst, (f t inst).session.Regular c i) :
    (s.withOperation c name f).session.Regular c i := by
  have ready := h.obtain hc name
  rcases hs : s.obtain c name with ⟨failure | inst, t⟩ <;> rw [hs] at ready
  · rw [withOperation_of_error hs]
    exact ready
  · rw [withOperation_of_ok hs]
    exact hf ready _

/-- No step breaks the invariant, whether it fails or not. -/
theorem Regular.step (h : s.Regular c i) (st : Step) : (s.step c st).session.Regular c i := by
  cases st with
  | setWorld w => exact h.congr rfl rfl
  | dispatch name => exact h.dispatch hc name
  | resolveLibrary => exact h.resolveLibrary
  | names => exact h
  | has name => exact h
  | describe => exact h
  | list => exact h
  | setVariable key value => exact ⟨h.declared, h.library, h.rootDir, h.toolchain, h.dryRun⟩
  | setEnvironment env => exact ⟨h.declared, h.library, h.rootDir, h.toolchain, h.dryRun⟩
  | baseEnvironment => exact h
  | setUseSystem useSystem => exact ⟨h.declared, h.library, h.rootDir, h.toolchain, h.dryRun⟩
  | get name => exact h.withOperation hc name fun ht => ht.handOut
  | environmentFor name given =>
    exact h.withOperation hc name fun ht _ => ht.environmentFor _ _
  | command name args => exact h.withOperation hc name fun ht _ => ht
  | isAvailable name env => exact h.withOperation hc name fun ht _ => ht
  | execute name env => exact h.withOperation hc name fun ht _ => ht

theorem Regular.after (h : s.Regular c i) (history : List Step) :
    (s.after c history).Regular c i := by
  induction history generalizing s with
  | nil => exact h
  | cons st rest ih => exact ih (h.step hc st)

/-- A regular session hands out what the catalogue declares, and nothing else changes but the
operations that it keeps. -/
theorem Regular.obtain_eq_ok (h : s.Regular c i) {name : Text} {e : Entry}
    (hname : c.catalogue.find? name = some e) :
    ∃ inst kept, Operation.ofEntry e = .ok inst.operation ∧
      s.obtain c name = (.ok inst, { s with instances := kept }) := by
  have cases := obtain_cases c s name
  cases hs : s.obtain c name with
  | mk result t =>
    rw [hs] at cases
    cases cases with
    | unknown hnone => simp [hname] at hnone
    | @kept e' inst hname' hkept =>
      obtain rfl : e' = e := Option.some.inj (hname'.symm.trans hname)
      obtain ⟨f, hf, -, ho⟩ := h.declared _ _ hkept
      obtain rfl : f = e' := Option.some.inj (hf.symm.trans (hc.find?_name hname))
      exact ⟨inst, s.instances, ho, rfl⟩
    | @failed e' failure hname' _ he =>
      obtain rfl : e' = e := Option.some.inj (hname'.symm.trans hname)
      obtain ⟨o, ho⟩ := (hc.coherent hname).ofEntry_eq_ok
      simp [ho] at he
    | @made e' inst hname' _ he =>
      obtain rfl : e' = e := Option.some.inj (hname'.symm.trans hname)
      exact ⟨inst, _, he, rfl⟩

end Ready

/-- In any session over a loaded configuration a dispatch performs the operation of its entry. -/
theorem exists_perform_of_load {files : ConfigFiles} {directory : Text} {config : Configuration}
    (hload : files.load directory = .ok config) {c : Setup}
    (hc : c.catalogue = config.catalogue) {i : Invocation} {s : Session} (h : s.Regular c i)
    {name : Text} {e : Entry} (hname : config.catalogue.find? name = some e) :
    ∃ o kept, Operation.ofEntry e = .ok o ∧
      s.dispatch c name = { s with instances := kept }.perform c o := by
  rw [← hc] at hname
  obtain ⟨inst, kept, ho, hobtain⟩ := h.obtain_eq_ok (hc ▸ ConfigFiles.ready_of_load hload) hname
  exact ⟨inst.operation, kept, ho, dispatch_of_ok hobtain⟩

theorem regular_after_of_load {files : ConfigFiles} {directory : Text} {config : Configuration}
    (hload : files.load directory = .ok config) {c : Setup}
    (hc : c.catalogue = config.catalogue) (w : World) (i : Invocation) (history : List Step) :
    (({ world := w, invocation := i } : Session).after c history).Regular c i :=
  (regular_start c w i).after (hc ▸ ConfigFiles.ready_of_load hload) history

end Session
end BuildDispatch
