import BuildDispatch.Proofs.Operation.Obstacles
import BuildDispatch.Proofs.Session.Instances

/-!
# Strays

A step may ask for an operation that the catalogue does not have. Such a stray fails before anything
is done for it, and it leaves the session as it was: its resolution, its instances and its
invocation. So strays can be left out of any history without a change to the other steps.

## Main statements

* `Session.step_of_isStray`: all that a stray comes to.
* `Session.after_filter`, `Session.steps_filter`: a history without its strays.
* `strays_inert`: every dispatch of a name that the catalogue lacks, in every session.
-/

namespace BuildDispatch

namespace Session

variable {c : Setup} {s : Session}

/-- The step asks for an operation that the catalogue does not have. -/
def Step.isStray (c : Setup) (st : Step) : Bool :=
  st.asked.any fun name => !c.catalogue.contains name

theorem Step.isStray_iff {st : Step} :
    st.isStray c = true ↔ ∃ name, st.asked = some name ∧ name ∉ c.catalogue.keys := by
  unfold isStray
  cases st.asked with
  | none => simp
  | some name => simp [← Bindings.contains_iff_mem_keys]

/-- A step that asks for an operation fails as the asking does. -/
theorem step_of_obtain_eq_error {st : Step} {name : Text} (hasked : st.asked = some name)
    {failure : Failure} {t : Session} (hobtain : s.obtain c name = (.error failure, t)) :
    s.step c st = t.still (.error failure) := by
  cases st with
  | dispatch =>
    obtain rfl := Option.some.inj hasked
    rw [step, dispatch_of_error hobtain]
    rfl
  | get | environmentFor | command | isAvailable | execute =>
    obtain rfl := Option.some.inj hasked
    exact withOperation_of_error hobtain _
  | _ => cases hasked

/-- A stray says which operations there are, and that is all. -/
theorem step_of_isStray {st : Step} (h : st.isStray c = true) (s : Session) :
    ∃ name, st.asked = some name ∧ name ∉ c.catalogue.keys ∧
      s.step c st = s.still (.error (.unknownOperation name c.catalogue.keys)) := by
  obtain ⟨name, hasked, hname⟩ := Step.isStray_iff.mp h
  exact ⟨name, hasked, hname, step_of_obtain_eq_error hasked (obtain_of_notMem hname s)⟩

theorem session_step_of_isStray {st : Step} (h : st.isStray c = true) (s : Session) :
    (s.step c st).session = s := by
  obtain ⟨name, -, -, hstep⟩ := step_of_isStray h s
  rw [hstep]
  rfl

/-! ### Histories without strays -/

theorem after_filter (c : Setup) (s : Session) (history : List Step) :
    s.after c (history.filter fun st => !st.isStray c) = s.after c history := by
  induction history generalizing s with
  | nil => rfl
  | cons st rest ih =>
    cases h : st.isStray c with
    | true =>
      have hsame := session_step_of_isStray h s
      simpa [h, after, hsame] using ih s
    | false => simpa [h, after] using ih (s.step c st).session

/-- The other steps come to what they come to without the strays. -/
theorem steps_filter (c : Setup) (s : Session) (history : List Step) :
    s.steps c (history.filter fun st => !st.isStray c) =
      ((history.zip (s.steps c history)).filter fun q => !q.1.isStray c).map Prod.snd := by
  induction history generalizing s with
  | nil => rfl
  | cons st rest ih =>
    cases h : st.isStray c with
    | true =>
      have hsame := session_step_of_isStray h s
      simpa [h, steps, hsame] using ih s
    | false => simpa [h, steps] using ih (s.step c st).session

/-! ### Names that are known -/

/-- A dispatch of a name that the catalogue has finds its operation. Only somebody else who is asked
to install a tool can say that there is none. -/
theorem exists_asking_of_unknown {files : ConfigFiles} {directory : Text} {config : Configuration}
    (hload : files.load directory = .ok config) (hc : c.catalogue = config.catalogue)
    {i : Invocation} (h : s.Regular c i) {name : Text} (hname : name ∈ config.catalogue.keys)
    {asked : Text} {available : List Text}
    (hresult : (s.dispatch c name).run.result = .error (.unknownOperation asked available)) :
    ∃ install tool env, c.provisioner = .asking install ∧
      install tool env = .error (.unknownOperation asked available) := by
  obtain ⟨e, hfound⟩ := Bindings.exists_find?_of_mem_keys hname
  obtain ⟨o, kept, ho, hdispatch⟩ := exists_perform_of_load hload hc h hfound
  rw [hdispatch, result_perform] at hresult
  rcases Workshop.obstacle_or_excuse_of_error ho hresult with hobstacle | ⟨-, hexcuse⟩
  · cases hobstacle.isRefusal
  · cases hexcuse with
    | provisioner hasked hinstall => exact ⟨_, _, _, hasked, hinstall⟩

end Session

/-- Whatever happened in a session before, a dispatch of a name that the catalogue lacks fails with
the names that it has. Nothing else happens, the session stays as it is, and no later step can
tell. -/
theorem strays_inert {files : ConfigFiles} {directory : Text} {config : Configuration}
    (hload : files.load directory = .ok config) {c : Setup}
    (hc : c.catalogue = config.catalogue) (w : World) (i : Invocation)
    (history : List Session.Step) (name : Text) :
    let start : Session := { world := w, invocation := i }
    let s := start.after c history
    let p := s.dispatch c name
    (name ∉ config.catalogue.keys →
      p.run.events = [] ∧
      p.run.result = .error (.unknownOperation name config.catalogue.keys) ∧
      p.session = s ∧
      (s.step c .names).run.result = .ok (.names config.catalogue.keys)) ∧
    (∀ asked available, p.run.result = .error (.unknownOperation asked available) →
      name ∉ config.catalogue.keys ∨ ∃ install tool env, c.provisioner = .asking install ∧
        install tool env = .error (.unknownOperation asked available)) ∧
    start.after c (history.filter fun st => !st.isStray c) = s ∧
    start.steps c (history.filter fun st => !st.isStray c) =
      ((history.zip (start.steps c history)).filter fun q => !q.1.isStray c).map Prod.snd := by
  intro start s p
  have regular : s.Regular c i := Session.regular_after_of_load hload hc w i history
  refine ⟨fun hname => ?_, fun asked available hresult => ?_,
    start.after_filter c history, start.steps_filter c history⟩
  · rw [← hc] at hname ⊢
    have hp : p = s.still (.error (.unknownOperation name c.catalogue.keys)) :=
      Session.dispatch_of_error (Session.obtain_of_notMem hname s)
    rw [hp]
    exact ⟨rfl, rfl, rfl, rfl⟩
  · by_cases hname : name ∈ config.catalogue.keys
    · exact .inr (Session.exists_asking_of_unknown hload hc regular hname hresult)
    · exact .inl hname

/-- A build that found the library, a stray, and a variable set by hand. -/
def strayHistory : List Session.Step :=
  [.dispatch "build", .get "nothing", .setVariable "LANG" "C"]

/-- A second stray leaves the resolution of the build in place. -/
theorem strayHistory_inert : ∃ config, ConfigFiles.small.load "etc" = .ok config ∧
    ("nothing" : Text) ∉ config.catalogue.keys ∧
    let c : Setup := { catalogue := config.catalogue, logger := {} }
    let start : Session := { world := optMachine, invocation := config.invocation }
    let s := start.after c strayHistory
    let p := s.dispatch c "nothing"
    p.run.events = [] ∧ p.session = s ∧
    p.session.resolution = some ⟨.systemSecondary, some "/opt/lib", "Z_DIR"⟩ ∧
    start.after c [.dispatch "build", .setVariable "LANG" "C"] = s := by
  have hload : ConfigFiles.small.load "etc" = .ok _ := rfl
  have hname : ("nothing" : Text) ∉ (["build", "b", "audit"] : List Text) := by decide
  refine ⟨_, hload, hname, ?_⟩
  intro c start s p
  obtain ⟨hstray, -, hafter, -⟩ :=
    @strays_inert _ _ _ hload c rfl optMachine _ strayHistory "nothing"
  obtain ⟨hevents, -, hsession, -⟩ := hstray hname
  exact ⟨hevents, hsession, congrArg Session.resolution hsession, hafter⟩

end BuildDispatch
