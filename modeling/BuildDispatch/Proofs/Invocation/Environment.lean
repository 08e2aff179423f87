import BuildDispatch.Proofs.Invocation

/-!
# What the environment decides

Three variables are asked for when an invocation is gathered, each by a rule of its own: the value
of one counts unless it is empty, one counts by its presence alone, and so does the third if the
configuration has a name for it. No other variable is looked at, and no value but that of the first,
so environments that agree in these three things give invocations that differ in nothing but the
environment they carry.

## Main statements

* `Config.NamesVariables`: the sections that variables are named in are as they should be.
* `Configuration.Yields`: what an invocation consists of, for a program.
* `environment_decides`: what is gathered in any environment, and in two that agree.
-/

namespace BuildDispatch

/-- The name that a value is, if it is a text. -/
def Value.name? (v : Value) : Option Text :=
  match v.view with
  | .str t => some t
  | _ => none

namespace Config

/-- The value under a key of a section, if there is one. -/
def declared (toolchain : Value) (part key : Text) : Option Value :=
  (optional toolchain part).bind fun v => optional v key

/-- The section on the toolchain is a mapping, that on logging is one if it is there, and what names
a variable is a text if it is there. -/
structure NamesVariables (toolchain : Value) : Prop where
  isMapping : ∃ part entries, optional toolchain "toolchain" = some part ∧
    part.view = .mapping entries
  logging : HasSection toolchain "logging"
  program : ∀ v, declared toolchain "toolchain" "program_env" = some v → ∃ name, v.view = .str name
  verbosity : ∀ v, declared toolchain "logging" "verbose_env" = some v → ∃ name, v.view = .str name

/-- The name of the variable for the program. -/
def programName (toolchain : Value) : Option Text :=
  (declared toolchain "toolchain" "program_env").bind Value.name?

/-- The name of the variable for verbose output. -/
def verboseName (toolchain : Value) : Option Text :=
  (declared toolchain "logging" "verbose_env").bind Value.name?

/-- The program that the environment has in place of the declared one. -/
def replacement (env : Environment) (toolchain : Value) : Option Text :=
  ((programName toolchain).bind env.find?).filter fun program => program ≠ []

/-- The presence of the variable for verbose output. One without a name is never present. -/
def AsksVerbosity (env : Environment) (toolchain : Value) : Prop :=
  ∃ name, verboseName toolchain = some name ∧ name ≠ [] ∧ name ∈ env.keys

theorem asksVerbosity_iff_any {env : Environment} {toolchain : Value} :
    AsksVerbosity env toolchain ↔
      (verboseName toolchain).any (fun name => !name.isEmpty && env.contains name) = true := by
  unfold AsksVerbosity
  cases verboseName toolchain <;> simp [Bindings.contains_iff_mem_keys]

instance (env : Environment) (toolchain : Value) : Decidable (AsksVerbosity env toolchain) :=
  decidable_of_iff _ asksVerbosity_iff_any.symm

section NamesVariables

variable {toolchain : Value} (h : NamesVariables toolchain)

include h

theorem NamesVariables.hasSection : HasSection toolchain "toolchain" := by
  obtain ⟨part, entries, hpart, hview⟩ := h.isMapping
  intro part' hpart'
  obtain rfl := Option.some.inj (hpart.symm.trans hpart')
  exact ⟨entries, hview⟩

/-- Where no variable is named there is null, which names none. -/
theorem NamesVariables.programVar_cases :
    (programVar toolchain).view = .null ∧ programName toolchain = none ∨
      ∃ name, (programVar toolchain).view = .str name ∧ programName toolchain = some name := by
  unfold programVar setting programName
  cases hdeclared : declared toolchain "toolchain" "program_env" with
  | none =>
    unfold declared at hdeclared
    rw [hdeclared]
    exact .inl ⟨rfl, rfl⟩
  | some v =>
    obtain ⟨name, hview⟩ := h.program v hdeclared
    unfold declared at hdeclared
    rw [hdeclared]
    exact .inr ⟨name, hview, by simp [Value.name?, hview]⟩

theorem NamesVariables.verboseVar_cases :
    (verboseVar toolchain).view = .null ∧ verboseName toolchain = none ∨
      ∃ name, (verboseVar toolchain).view = .str name ∧ verboseName toolchain = some name := by
  unfold verboseVar setting verboseName
  cases hdeclared : declared toolchain "logging" "verbose_env" with
  | none =>
    unfold declared at hdeclared
    rw [hdeclared]
    exact .inl ⟨rfl, rfl⟩
  | some v =>
    obtain ⟨name, hview⟩ := h.verbosity v hdeclared
    unfold declared at hdeclared
    rw [hdeclared]
    exact .inr ⟨name, hview, by simp [Value.name?, hview]⟩

end NamesVariables

end Config

open Config

namespace Configuration

variable {c : Configuration} (h : NamesVariables c.toolchain) (env : Environment)

include h

/-! ### The three variables -/

/-- An empty value counts no more than a variable that is not there. -/
theorem toolchainFor_eq : c.toolchainFor env =
    match replacement env c.toolchain with
    | some program => .ok program
    | none => c.toolchainProgram := by
  unfold toolchainFor toolchainVar replacement
  rw [c.sectionPart_of_hasSection h.hasSection]
  change env.valueAt (programVar c.toolchain) >>= _ = _
  unfold Environment.valueAt
  rcases h.programVar_cases with ⟨hview, hname⟩ | ⟨name, hview, hname⟩
  · rw [hview, hname]
    rfl
  · rw [hview, hname]
    change (match env.find? name with
      | some program => if program.isEmpty then _ else _
      | none => _) = _
    rw [Option.bind_some]
    cases env.find? name with
    | none => rfl
    | some program => cases program <;> rfl

theorem verboseFor_eq : c.verboseFor env = .ok (decide (AsksVerbosity env c.toolchain)) := by
  unfold verboseFor Configuration.verboseVar
  rw [c.sectionPart_of_hasSection h.logging]
  change (if (Config.verboseVar c.toolchain).isNothing then _ else
    env.valueAt (Config.verboseVar c.toolchain) >>= _) = _
  unfold Value.isNothing Environment.valueAt
  rcases h.verboseVar_cases with ⟨hview, hname⟩ | ⟨name, hview, hname⟩
  · have hasks : ¬ AsksVerbosity env c.toolchain := by simp [AsksVerbosity, hname]
    rw [hview, decide_eq_false hasks]
    rfl
  · have hasks : AsksVerbosity env c.toolchain ↔ name ≠ [] ∧ name ∈ env.keys := by
      simp [AsksVerbosity, hname]
    have hpresent : (env.find? name).isSome = decide (name ∈ env.keys) := by
      rw [Bool.eq_iff_iff, decide_eq_true_iff]
      exact Bindings.contains_iff_mem_keys env name
    rw [hview]
    change (if name.isEmpty then .ok false
      else .ok (env.find? name).isSome : Except Failure Bool) = _
    cases name with
    | nil => simp [hasks]
    | cons c rest => simp [hasks, hpresent]

/-- The declared program is missing, or all depends on its text. -/
theorem toolchainProgram_eq : c.toolchainProgram =
    match declaredProgram c.toolchain with
    | some v => v.text.mapError .unwritable
    | none => .error (.configuration (.missingKey "program" "toolchain")) := by
  obtain ⟨part, entries, hpart, -⟩ := h.isMapping
  unfold toolchainProgram declaredProgram require
  rw [hpart]
  change (requireText part "program" "toolchain").mapError Rejection.failure = _
  unfold requireText require
  rw [Option.bind_some]
  cases optional part "program" with
  | none => rfl
  | some v =>
    change (textOf v).mapError Rejection.failure = v.text.mapError .unwritable
    unfold textOf
    cases v.text <;> rfl

end Configuration

/-! ### The invocation -/

namespace Configuration

/-- The parts of an invocation that has this program. -/
structure Yields (c : Configuration) (env : Environment) (flags : Flags) (current : Path)
    (program : Text) (i : Invocation) : Prop where
  rootDir : i.rootDir = flags.rootDir.getD current
  toolchain : i.toolchain = program
  library : i.library = c.library
  /-- All of the environment, in its order. -/
  baseEnv : i.baseEnv = env
  useSystemLibrary :
    i.useSystemLibrary = true ↔ flags.bundled = false ∧ c.library.overrideVar ∉ env.keys
  dryRun : i.dryRun = flags.dryRun
  verbose : i.verbose = true ↔ flags.verbose = true ∨ AsksVerbosity env c.toolchain

/-- Two environments have the same program and the same of the two variables that count by their
presence. -/
structure Agrees (c : Configuration) (env env' : Environment) : Prop where
  program : ∀ name, programName c.toolchain = some name → env'.find? name = env.find? name
  override : c.library.overrideVar ∈ env'.keys ↔ c.library.overrideVar ∈ env.keys
  verbosity : ∀ name, verboseName c.toolchain = some name → (name ∈ env'.keys ↔ name ∈ env.keys)

theorem Agrees.replacement_eq {c : Configuration} {env env' : Environment} (h : c.Agrees env env') :
    replacement env' c.toolchain = replacement env c.toolchain := by
  unfold replacement
  cases hname : programName c.toolchain with
  | none => rfl
  | some name => rw [Option.bind_some, Option.bind_some, h.program name hname]

theorem Agrees.asksVerbosity_iff {c : Configuration} {env env' : Environment}
    (h : c.Agrees env env') :
    AsksVerbosity env' c.toolchain ↔ AsksVerbosity env c.toolchain := by
  unfold AsksVerbosity
  constructor
  · rintro ⟨name, hname, hne, hmem⟩
    exact ⟨name, hname, hne, (h.verbosity name hname).mp hmem⟩
  · rintro ⟨name, hname, hne, hmem⟩
    exact ⟨name, hname, hne, (h.verbosity name hname).mpr hmem⟩

/-- What an environment decides about what is gathered. -/
structure DecidedBy (c : Configuration) (env : Environment) (flags : Flags) (current : Path) :
    Prop where
  replaced : ∀ program, replacement env c.toolchain = some program →
    ∃ i, c.gather env flags current = .ok i ∧ c.Yields env flags current program i
  declared : replacement env c.toolchain = none → ∀ v program,
    declaredProgram c.toolchain = some v → v.text = .ok program →
      ∃ i, c.gather env flags current = .ok i ∧ c.Yields env flags current program i
  /-- The declared program is a number that has no text. -/
  unwritable : replacement env c.toolchain = none → ∀ v cause,
    declaredProgram c.toolchain = some v → v.text = .error cause →
      c.gather env flags current = .error (.unwritable cause)
  rejects_iff : (∃ fault, c.gather env flags current = .error (.configuration fault)) ↔
    replacement env c.toolchain = none ∧ declaredProgram c.toolchain = none
  /-- Nothing else of the environment gets into anything but the environment. -/
  agreed : ∀ env', c.Agrees env env' → c.gather env' flags current =
    (c.gather env flags current).map fun i => { i with baseEnv := env' }

variable {c : Configuration} (h : NamesVariables c.toolchain) (env : Environment) (flags : Flags)
  (current : Path)

/-- The invocation that has a program. -/
def invocationWith (c : Configuration) (env : Environment) (flags : Flags) (current : Path)
    (program : Text) : Invocation :=
  { rootDir := flags.rootDir.getD current
    toolchain := program
    library := c.library
    baseEnv := env
    useSystemLibrary := !flags.bundled && !env.contains c.library.overrideVar
    dryRun := flags.dryRun
    verbose := flags.verbose || decide (AsksVerbosity env c.toolchain) }

theorem yields_invocationWith (program : Text) :
    c.Yields env flags current program (c.invocationWith env flags current program) where
  rootDir := rfl
  toolchain := rfl
  library := rfl
  baseEnv := rfl
  useSystemLibrary := by
    rw [← Bindings.contains_iff_mem_keys]
    simp [invocationWith]
  dryRun := rfl
  verbose := by simp [invocationWith]

theorem Agrees.invocationWith_eq {env env' : Environment} (hagree : c.Agrees env env')
    (program : Text) : c.invocationWith env' flags current program =
      { c.invocationWith env flags current program with baseEnv := env' } := by
  have hoverride : env'.contains c.library.overrideVar = env.contains c.library.overrideVar := by
    rw [Bool.eq_iff_iff, Bindings.contains_iff_mem_keys, Bindings.contains_iff_mem_keys]
    exact hagree.override
  simp only [invocationWith, hoverride, hagree.asksVerbosity_iff]

include h

/-- Gathering depends on how a program is come by; all else it can always do. -/
theorem gather_eq :
    c.gather env flags current = (c.toolchainFor env).map (c.invocationWith env flags current) := by
  unfold gather
  rw [verboseFor_eq h]
  cases c.toolchainFor env <;> rfl

theorem Agrees.toolchainFor_eq {env' : Environment} (hagree : c.Agrees env env') :
    c.toolchainFor env' = c.toolchainFor env := by
  rw [Configuration.toolchainFor_eq h, Configuration.toolchainFor_eq h, hagree.replacement_eq]

end Configuration

/-- In every environment: the program is that of the variable for it, unless the value is empty,
and else the declared one; a fault is found exactly if that one is needed and missing; the system
library is ruled out by presence, verbosity is asked for by presence. Environments that agree in
these things give the same but for the environment itself. -/
theorem environment_decides {c : Configuration} (h : NamesVariables c.toolchain)
    (env : Environment) (flags : Flags) (current : Path) : c.DecidedBy env flags current := by
  have hgather := Configuration.gather_eq h env flags current
  have hprogram := Configuration.toolchainProgram_eq h
  have yields := c.yields_invocationWith env flags current
  refine ⟨fun program hsome => ?_, fun hnone v program hv htext => ?_,
    fun hnone v cause hv htext => ?_, ⟨?_, ?_⟩, fun env' hagree => ?_⟩
  · rw [Configuration.toolchainFor_eq h, hsome] at hgather
    exact ⟨_, hgather, yields program⟩
  · rw [Configuration.toolchainFor_eq h, hnone] at hgather
    simp only [hprogram, hv, htext] at hgather
    exact ⟨_, hgather, yields program⟩
  · rw [Configuration.toolchainFor_eq h, hnone] at hgather
    simp only [hprogram, hv, htext] at hgather
    exact hgather
  · rintro ⟨fault, hfault⟩
    rw [hgather, Configuration.toolchainFor_eq h] at hfault
    cases hreplacement : replacement env c.toolchain with
    | some program => simp [hreplacement, Except.map] at hfault
    | none =>
      cases hdeclared : declaredProgram c.toolchain with
      | none => exact ⟨rfl, rfl⟩
      | some v =>
        -- A declared program is no fault, even where it has no text.
        simp only [hreplacement, hprogram, hdeclared] at hfault
        cases htext : v.text with
        | ok program => simp [htext, Except.mapError, Except.map] at hfault
        | error cause => simp [htext, Except.mapError, Except.map] at hfault
  · rintro ⟨hnone, hdeclared⟩
    rw [Configuration.toolchainFor_eq h, hnone] at hgather
    simp only [hprogram, hdeclared] at hgather
    exact ⟨_, hgather⟩
  · rw [hgather, Configuration.gather_eq h env' flags current, hagree.toolchainFor_eq h]
    cases c.toolchainFor env with
    | error failure => rfl
    | ok program => exact congrArg Except.ok (hagree.invocationWith_eq flags current program)

/-- All three variables have names, and a program is declared. -/
def namedVariables : ConfigFiles := .withSections
  [(.str "toolchain", .mapping [(.str "program", .str "cargo"), (.str "program_env", .str "TOOL")]),
    (.str "logging", .mapping [(.str "verbose_env", .str "LOUD")])]

/-- Each variable is there with a value that says nothing. -/
def emptyVariables : Environment := .ofList
  [("TOOL", ""), ("PATH", "/bin"), ("LOUD", ""), ("Z_BUNDLED", "")]

theorem emptyVariables_decide : ∃ config, namedVariables.load "etc" = .ok config ∧
    NamesVariables config.toolchain ∧
    ∃ i, config.gather emptyVariables {} (.ofText "/work") = .ok i ∧ i.toolchain = "cargo" ∧
      i.useSystemLibrary = false ∧ i.verbose = true ∧
      config.gather (.ofList [("Z_BUNDLED", "1"), ("LOUD", "no"), ("TOOL", "")]) {}
          (.ofText "/work") =
        .ok { i with baseEnv := .ofList [("Z_BUNDLED", "1"), ("LOUD", "no"), ("TOOL", "")] } := by
  obtain ⟨config, hload, hnames, hdeclared, hprogram, hverbose, hoverride⟩ :
      ∃ config, namedVariables.load "etc" = .ok config ∧ NamesVariables config.toolchain ∧
        (∃ v, declaredProgram config.toolchain = some v ∧ v.text = .ok "cargo") ∧
        programName config.toolchain = some "TOOL" ∧ verboseName config.toolchain = some "LOUD" ∧
        config.library.overrideVar = "Z_BUNDLED" := by
    refine ⟨_, rfl, ⟨⟨_, _, rfl, rfl⟩, ?_, ?_, ?_⟩, ⟨_, rfl, rfl⟩, rfl, rfl, rfl⟩
    · rintro part ⟨⟩
      exact ⟨_, rfl⟩
    · rintro v ⟨⟩
      exact ⟨_, rfl⟩
    · rintro v ⟨⟩
      exact ⟨_, rfl⟩
  obtain ⟨v, hv, htext⟩ := hdeclared
  have decided := environment_decides hnames emptyVariables {} (.ofText "/work")
  have hnone : replacement emptyVariables config.toolchain = none := by
    rw [replacement, hprogram]
    rfl
  obtain ⟨i, hgather, yields⟩ := decided.declared hnone v "cargo" hv htext
  refine ⟨config, hload, hnames, i, hgather, yields.toolchain, ?_, ?_, ?_⟩
  · rw [Bool.eq_false_iff, Ne, yields.useSystemLibrary, hoverride]
    decide
  · exact yields.verbose.mpr (.inr ⟨"LOUD", hverbose, by decide, by decide⟩)
  · rw [decided.agreed, hgather]
    · rfl
    · refine ⟨?_, ?_, ?_⟩
      · rw [hprogram]
        rintro name ⟨⟩
        rfl
      · rw [hoverride]
        decide
      · rw [hverbose]
        rintro name ⟨⟩
        decide

end BuildDispatch
