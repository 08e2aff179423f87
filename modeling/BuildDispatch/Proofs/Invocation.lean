import BuildDispatch.Invocation
import BuildDispatch.Proofs.Config.Acceptance

/-!
# What an invocation is gathered from

Loading looks at the library and at the operations alone. The program of the toolchain and the names
of two variables are read when an invocation is gathered, from two sections that may have any shape
by then. What comes of them is said here about the toolchain file as a value: an invocation, the one
fault that there is a word for, or a failure that tells of no fault at all.

## Main statements

* `Config.NamesProgram`, `Config.NamesVerbosity`: the sections are of the right shape.
* `Config.Misread`: the failures that sections of a wrong shape come to.
* `gather_decided`: what every loaded configuration is gathered to.
* `nullSection_misread`: a section may be null, and no fault is reported.
-/

namespace BuildDispatch

namespace Config

/-! ### Sections -/

/-- The section is missing, or it is a mapping. -/
def HasSection (toolchain : Value) (name : Text) : Prop :=
  ∀ part, optional toolchain name = some part → ∃ entries, part.view = .mapping entries

/-- The value under a key of a section, and null where there is none. -/
def setting (toolchain : Value) (name key : Text) : Value :=
  ((optional toolchain name).bind fun part => optional part key).getD .null

/-- The value that names the variable for the program. -/
def programVar (toolchain : Value) : Value := setting toolchain "toolchain" "program_env"

/-- The value that names the variable for verbose output. -/
def verboseVar (toolchain : Value) : Value := setting toolchain "logging" "verbose_env"

/-- The program that the toolchain file declares. -/
def declaredProgram (toolchain : Value) : Option Value :=
  (optional toolchain "toolchain").bind fun part => optional part "program"

/-- The value of the variable that a value names; only texts name variables. -/
def valueIn (env : Environment) (v : Value) : Option Text :=
  match v.view with
  | .str name => env.find? name
  | _ => none

/-- The environment has a program in place of the declared one. -/
def Replaces (env : Environment) (toolchain : Value) : Prop :=
  ∃ program, valueIn env (programVar toolchain) = some program ∧ program ≠ []

/-- The variable for the program can be read: no container stands where its name should. -/
structure NamesProgram (toolchain : Value) : Prop where
  hasSection : HasSection toolchain "toolchain"
  isKey : (programVar toolchain).view.isKey = true

/-- The variable for verbose output can be read. What counts as nothing names none. -/
structure NamesVerbosity (toolchain : Value) : Prop where
  hasSection : HasSection toolchain "logging"
  isKey : (verboseVar toolchain).isNothing = true ∨ (verboseVar toolchain).view.isKey = true

/-- A program comes from the environment, or it is declared as something that has a text. -/
def HasProgram (env : Environment) (toolchain : Value) : Prop :=
  Replaces env toolchain ∨
    ∃ part program, declaredProgram toolchain = some part ∧ part.text = .ok program

/-- No program comes from anywhere. -/
def LacksProgram (env : Environment) (toolchain : Value) : Prop :=
  ¬ Replaces env toolchain ∧ declaredProgram toolchain = none

theorem LacksProgram.not_hasProgram {env : Environment} {toolchain : Value}
    (h : LacksProgram env toolchain) : ¬ HasProgram env toolchain := by
  rintro (hreplaces | ⟨part, program, hpart, -⟩)
  · exact h.1 hreplaces
  · simp [h.2] at hpart

/-- The sections that an invocation is gathered from. -/
def gatheredSections : List Text := ["toolchain", "logging"]

/-- The failures that are no faults of the configuration, and where they come from. -/
inductive Misread (toolchain : Value) : Failure → Prop
  | shapeless {name : Text} {part : Value} (hname : name ∈ gatheredSections)
    (hpart : optional toolchain name = some part)
    (hshape : ∀ entries, part.view ≠ .mapping entries) :
    Misread toolchain (.noAttribute part.fullKindName "get")
  | unnamed {v : Value} (hv : v = programVar toolchain ∨ v = verboseVar toolchain)
    (hshape : v.view.isKey = false) : Misread toolchain (.notAKey v.kindName)
  | unwritable {part : Value} {cause : Unwritable}
    (hpart : declaredProgram toolchain = some part) (htext : part.text = .error cause) :
    Misread toolchain (.unwritable cause)

theorem Misread.ne_configuration {toolchain : Value} {failure : Failure}
    (h : Misread toolchain failure) (fault : ConfigFault) : failure ≠ .configuration fault := by
  cases h <;> nofun

end Config

open Config

/-- A variable can be asked for unless a container stands for its name. -/
theorem Environment.valueAt_eq (env : Environment) (v : Value) :
    env.valueAt v =
      if v.view.isKey then .ok (valueIn env v) else .error (.notAKey v.kindName) := by
  unfold valueAt valueIn
  cases v.view <;> rfl

namespace Configuration

variable (c : Configuration)

theorem sectionPart_of_hasSection {name : Text} (h : HasSection c.toolchain name) (key : Text) :
    c.sectionPart name key = .ok (setting c.toolchain name key) := by
  unfold sectionPart setting
  cases hpart : optional c.toolchain name with
  | none => rfl
  | some part =>
    obtain ⟨entries, hview⟩ := h part hpart
    simp [hview, Config.optional]

theorem sectionPart_of_not_hasSection {name : Text} (hname : name ∈ gatheredSections)
    (h : ¬ HasSection c.toolchain name) (key : Text) :
    ∃ failure, c.sectionPart name key = .error failure ∧ Misread c.toolchain failure := by
  obtain ⟨part, hpart, hshape⟩ : ∃ part, optional c.toolchain name = some part ∧
      ∀ entries, part.view ≠ .mapping entries := by
    simpa [HasSection] using h
  refine ⟨.noAttribute part.fullKindName "get", ?_, .shapeless hname hpart hshape⟩
  unfold sectionPart
  rw [hpart]
  dsimp only [Option.getD]
  split
  · next entries hview => exact absurd hview (hshape entries)
  · rfl

/-! ### The program -/

/-- What reading the program comes to, for a toolchain file and an environment. -/
inductive ProgramRead (env : Environment) (toolchain : Value) : Except Failure Text → Prop
  | provided {program : Text} (hnamed : NamesProgram toolchain) (h : HasProgram env toolchain) :
    ProgramRead env toolchain (.ok program)
  | missing {fault : ConfigFault} (hnamed : NamesProgram toolchain)
    (h : LacksProgram env toolchain) : ProgramRead env toolchain (.error (.configuration fault))
  | misread {failure : Failure} (h : Misread toolchain failure)
    (hread : NamesProgram toolchain → ¬ HasProgram env toolchain ∧ ¬ LacksProgram env toolchain) :
    ProgramRead env toolchain (.error failure)

/-- Without a program in the environment it all depends on the declared one. -/
theorem programRead_toolchainProgram {env : Environment} (hnamed : NamesProgram c.toolchain)
    (henv : ¬ Replaces env c.toolchain) : ProgramRead env c.toolchain c.toolchainProgram := by
  unfold toolchainProgram require
  cases hsection : optional c.toolchain "toolchain" with
  | none => exact .missing hnamed ⟨henv, by rw [declaredProgram, hsection]; rfl⟩
  | some part =>
    have hdeclared : declaredProgram c.toolchain = optional part "program" := by
      rw [declaredProgram, hsection]
      rfl
    change ProgramRead env c.toolchain
      ((requireText part "program" "toolchain").mapError Rejection.failure)
    unfold requireText require
    cases hprogram : optional part "program" with
    | none => exact .missing hnamed ⟨henv, hdeclared.trans hprogram⟩
    | some program =>
      rw [hprogram] at hdeclared
      change ProgramRead env c.toolchain ((textOf program).mapError Rejection.failure)
      unfold textOf
      cases htext : program.text with
      | ok t => exact .provided hnamed (.inr ⟨program, t, hdeclared, htext⟩)
      | error cause =>
        refine .misread (.unwritable hdeclared htext) fun _ => ⟨?_, fun h => ?_⟩
        · rintro (hreplaces | ⟨part', t, hpart', ht⟩)
          · exact henv hreplaces
          · obtain rfl := Option.some.inj (hdeclared.symm.trans hpart')
            simp [htext] at ht
        · simp [h.2] at hdeclared

theorem programRead_toolchainFor (env : Environment) :
    ProgramRead env c.toolchain (c.toolchainFor env) := by
  unfold toolchainFor toolchainVar
  by_cases hsection : HasSection c.toolchain "toolchain"
  case neg =>
    obtain ⟨failure, hfailure, hmisread⟩ :=
      c.sectionPart_of_not_hasSection (by decide) hsection "program_env"
    rw [hfailure]
    exact .misread hmisread fun h => absurd h.hasSection hsection
  rw [c.sectionPart_of_hasSection hsection]
  change ProgramRead env c.toolchain (env.valueAt (programVar c.toolchain) >>= _)
  rw [Environment.valueAt_eq]
  by_cases hkey : (programVar c.toolchain).view.isKey = true
  case neg =>
    rw [if_neg hkey]
    exact .misread (.unnamed (.inl rfl) (Bool.eq_false_iff.mpr hkey)) fun h => absurd h.isKey hkey
  rw [if_pos hkey]
  have hnamed : NamesProgram c.toolchain := ⟨hsection, hkey⟩
  cases hvalue : valueIn env (programVar c.toolchain) with
  | none =>
    refine c.programRead_toolchainProgram hnamed ?_
    rintro ⟨program, hprogram, -⟩
    simp [hvalue] at hprogram
  | some program =>
    change ProgramRead env c.toolchain (if program.isEmpty then _ else _)
    split
    · next hempty =>
      refine c.programRead_toolchainProgram hnamed ?_
      rintro ⟨program', hprogram', hne⟩
      obtain rfl := Option.some.inj (hvalue.symm.trans hprogram')
      exact hne (List.isEmpty_iff.mp hempty)
    · next hne => exact .provided hnamed (.inl ⟨program, hvalue, mt List.isEmpty_iff.mpr hne⟩)

/-! ### Verbosity -/

/-- What reading the wish for verbose output comes to. -/
inductive VerbosityRead (toolchain : Value) : Except Failure Bool → Prop
  | answered {verbose : Bool} (h : NamesVerbosity toolchain) :
    VerbosityRead toolchain (.ok verbose)
  | misread {failure : Failure} (h : Misread toolchain failure)
    (hread : ¬ NamesVerbosity toolchain) : VerbosityRead toolchain (.error failure)

theorem verbosityRead_verboseFor (env : Environment) :
    VerbosityRead c.toolchain (c.verboseFor env) := by
  unfold verboseFor Configuration.verboseVar
  by_cases hsection : HasSection c.toolchain "logging"
  case neg =>
    obtain ⟨failure, hfailure, hmisread⟩ :=
      c.sectionPart_of_not_hasSection (by decide) hsection "verbose_env"
    rw [hfailure]
    exact .misread hmisread fun h => hsection h.hasSection
  rw [c.sectionPart_of_hasSection hsection]
  change VerbosityRead c.toolchain (if (Config.verboseVar c.toolchain).isNothing then _ else
    env.valueAt (Config.verboseVar c.toolchain) >>= _)
  split
  · next hnothing => exact .answered ⟨hsection, .inl hnothing⟩
  · next hnothing =>
    rw [Environment.valueAt_eq]
    split
    · next hkey => exact .answered ⟨hsection, .inr hkey⟩
    · next hkey =>
      refine .misread (.unnamed (.inr rfl) (Bool.eq_false_iff.mpr hkey)) fun h => ?_
      exact h.isKey.elim hnothing hkey

/-! ### The invocation -/

/-- What gathering comes to. The program is read first, so that a missing one is told of whatever
the section on verbosity looks like. -/
structure Gathered (env : Environment) (toolchain : Value) (result : Except Failure Invocation) :
    Prop where
  returns_iff : (∃ i, result = .ok i) ↔
    NamesProgram toolchain ∧ HasProgram env toolchain ∧ NamesVerbosity toolchain
  rejects_iff : (∃ fault, result = .error (.configuration fault)) ↔
    NamesProgram toolchain ∧ LacksProgram env toolchain
  misread : ∀ failure, result = .error failure → (∀ fault, failure ≠ .configuration fault) →
    Misread toolchain failure

theorem gathered_gather (env : Environment) (flags : Flags) (current : Path) :
    Gathered env c.toolchain (c.gather env flags current) := by
  have hprogram := c.programRead_toolchainFor env
  have hverbosity := c.verbosityRead_verboseFor env
  unfold gather
  generalize c.toolchainFor env = program at hprogram
  generalize c.verboseFor env = verbosity at hverbosity
  cases hprogram with
  | missing hnamed hlacks =>
    refine ⟨⟨nofun, fun h => absurd h.2.1 hlacks.not_hasProgram⟩, ⟨fun _ => ⟨hnamed, hlacks⟩,
      fun _ => ⟨_, rfl⟩⟩, ?_⟩
    rintro _ ⟨⟩ hfault
    exact absurd rfl (hfault _)
  | misread hmisread hread =>
    refine ⟨⟨nofun, fun h => absurd h.2.1 (hread h.1).1⟩, ⟨?_, fun h => absurd h.2 (hread h.1).2⟩,
      ?_⟩
    · rintro ⟨fault, ⟨⟩⟩
      exact absurd rfl (hmisread.ne_configuration fault)
    · rintro _ ⟨⟩ -
      exact hmisread
  | provided hnamed hhas =>
    have hlacks : ¬ LacksProgram env c.toolchain := fun h => h.not_hasProgram hhas
    cases hverbosity with
    | answered h =>
      exact ⟨⟨fun _ => ⟨hnamed, hhas, h⟩, fun _ => ⟨_, rfl⟩⟩,
        ⟨nofun, fun h => absurd h.2 hlacks⟩, nofun⟩
    | misread hmisread hread =>
      refine ⟨⟨nofun, fun h => absurd h.2.2 hread⟩, ⟨?_, fun h => absurd h.2 hlacks⟩, ?_⟩
      · rintro ⟨fault, ⟨⟩⟩
        exact absurd rfl (hmisread.ne_configuration fault)
      · rintro _ ⟨⟩ -
        exact hmisread

end Configuration

/-- A toolchain file with a library is kept as it is. -/
theorem ConfigFiles.toolchain_of_load {files : ConfigFiles} {toolchain : Value}
    (htoolchain : files.toolchain.Holds toolchain) {directory : Text} {config : Configuration}
    (hload : files.load directory = .ok config) : config.toolchain = toolchain := by
  obtain ⟨read, operations, hread, -, hcheck⟩ := load_eq_ok_iff.mp hload
  obtain ⟨-, hlibrary, hkept⟩ := check_eq_ok_iff.mp hcheck
  obtain rfl : toolchain.orEmpty = read := Except.ok.inj ((htoolchain.read_eq _ _).symm.trans hread)
  rw [hkept]
  unfold Value.orEmpty at hlibrary ⊢
  split
  · next hnothing =>
    rw [if_pos hnothing] at hlibrary
    cases hlibrary
  · rfl

/-- From a configuration that was loaded an invocation is gathered, or a fault is found, exactly
under conditions on the shape of two sections of the toolchain file; otherwise what comes of it is
no fault. -/
theorem gather_decided {files : ConfigFiles} {toolchain : Value}
    (htoolchain : files.toolchain.Holds toolchain) {directory : Text} {config : Configuration}
    (hload : files.load directory = .ok config) (env : Environment) (flags : Flags)
    (current : Path) : Configuration.Gathered env toolchain (config.gather env flags current) := by
  rw [← ConfigFiles.toolchain_of_load htoolchain hload]
  exact config.gathered_gather env flags current

/-- The files of a small configuration, with other sections beside the library. -/
def ConfigFiles.withSections (sections : List (Tree × Tree)) : ConfigFiles :=
  { ConfigFiles.small with
    toolchain := .value <| .ofTree <| .mapping <| (.str "library", .mapping [
      (.str "filename", .str "libz.so"), (.str "candidate_dirs", .list [.str "/usr/lib"]),
      (.str "search_path_var", .str "Z_DIR"), (.str "override_var", .str "Z_BUNDLED")]) ::
        sections }

/-- No program is declared, and a list stands where the variable for verbose output should be. -/
def halfRead : ConfigFiles := .withSections
  [(.str "toolchain", .mapping [(.str "program_env", .str "TOOL")]),
    (.str "logging", .mapping [(.str "verbose_env", .list [.str "LOUD"])])]

/-- As long as the program is missing, that is all that is told. -/
theorem halfRead_gathered : ∃ toolchain config, halfRead.toolchain.Holds toolchain ∧
    halfRead.load "etc" = .ok config ∧
    (∃ fault, config.gather .empty {} (.ofText "/work") = .error (.configuration fault)) ∧
    ∃ failure, config.gather (.ofList [("TOOL", "make")]) {} (.ofText "/work") = .error failure ∧
      Misread toolchain failure := by
  have hholds : halfRead.toolchain.Holds _ := .value _
  have hload : halfRead.load "etc" = .ok _ := rfl
  have missing := gather_decided hholds hload .empty {} (.ofText "/work")
  have named := gather_decided hholds hload (.ofList [("TOOL", "make")]) {} (.ofText "/work")
  refine ⟨_, _, hholds, hload, missing.rejects_iff.mpr ⟨⟨?_, rfl⟩, ?_, rfl⟩,
    _, rfl, named.misread _ rfl nofun⟩
  · rintro part ⟨⟩
    exact ⟨_, rfl⟩
  · rintro ⟨program, ⟨⟩, -⟩

/-- A section of the toolchain file is null. -/
def nullSection : ConfigFiles := .withSections [(.str "toolchain", .null)]

theorem nullSection_misread : ∃ config, nullSection.load "etc" = .ok config ∧
    ¬ ((∃ i, config.gather .empty {} (.ofText "/work") = .ok i) ∨
      ∃ fault, config.gather .empty {} (.ofText "/work") = .error (.configuration fault)) ∧
    config.gather .empty {} (.ofText "/work") = .error (.noAttribute "NoneType" "get") := by
  refine ⟨_, rfl, ?_, rfl⟩
  rintro (⟨i, h⟩ | ⟨fault, h⟩)
  · cases h
  · cases h

end BuildDispatch
