import BuildDispatch.Config.Load
import BuildDispatch.Path

/-!
# Invocations

What a single invocation works with, gathered once from the configuration, the environment and the
flags. The environment decides three things, each by a rule of its own: the value of one variable
replaces the toolchain program unless it is empty, and the presence of two others rules out the
system library and asks for verbose output.
-/

namespace BuildDispatch

open Config

structure Invocation where
  rootDir : Path
  toolchain : Text
  library : LibrarySettings
  baseEnv : Environment
  useSystemLibrary : Bool := true
  dryRun : Bool := false
  verbose : Bool := false
deriving Repr

namespace Configuration

/-- The program that the toolchain section names. -/
def toolchainProgram (c : Configuration) : Except Failure Text :=
  let found : Checked Text := do
    let toolchain ← require c.toolchain "toolchain" "toolchain.yaml"
    requireText toolchain "program" "toolchain"
  found.mapError Rejection.failure

/-- A part of a section that may be missing. A section has to be a mapping. -/
def sectionPart (c : Configuration) (name key : Text) : Except Failure Value :=
  let part := (optional c.toolchain name).getD .emptyMapping
  match part.view with
  | .mapping entries => .ok ((Value.lookup key entries).getD .null)
  | _ => .error (.noAttribute part.fullKindName "get")

/-- The variable that replaces the toolchain program. -/
def toolchainVar (c : Configuration) : Except Failure Value :=
  c.sectionPart "toolchain" "program_env"

/-- The variable that asks for verbose output. -/
def verboseVar (c : Configuration) : Except Failure Value :=
  c.sectionPart "logging" "verbose_env"

end Configuration

/-- The value of the variable that a configuration value names. Only texts name variables, and a
container cannot even be looked up. -/
def Environment.valueAt (env : Environment) (name : Value) : Except Failure (Option Text) :=
  match name.view with
  | .str t => .ok (env.find? t)
  | shape => if shape.isKey then .ok none else .error (.notAKey name.kindName)

/-- What the command line asks for. -/
structure Flags where
  rootDir : Option Path := none
  dryRun : Bool := false
  verbose : Bool := false
  bundled : Bool := false
deriving Repr

namespace Configuration

/-- The toolchain program: that of the environment, else that of the configuration. -/
def toolchainFor (c : Configuration) (env : Environment) : Except Failure Text := do
  let var ← c.toolchainVar
  match ← env.valueAt var with
  | some program => if program.isEmpty then c.toolchainProgram else .ok program
  | none => c.toolchainProgram

/-- Whether the environment asks for verbose output. -/
def verboseFor (c : Configuration) (env : Environment) : Except Failure Bool := do
  let var ← c.verboseVar
  if var.isNothing then .ok false
  else
    let found ← env.valueAt var
    .ok found.isSome

/-- Gather an invocation. Without a root directory the current one is taken. -/
def gather (c : Configuration) (env : Environment) (flags : Flags) (current : Path) :
    Except Failure Invocation := do
  let toolchain ← c.toolchainFor env
  let verbose ← c.verboseFor env
  .ok
    { rootDir := flags.rootDir.getD current
      toolchain
      library := c.library
      baseEnv := env
      useSystemLibrary := !flags.bundled && !env.contains c.library.overrideVar
      dryRun := flags.dryRun
      verbose := flags.verbose || verbose }

end Configuration
end BuildDispatch
