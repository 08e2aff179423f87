import BuildDispatch.Text

/-!
# Switches

The options that the command line knows, and the one argument that is none. An option has one or
more names, may take a value, and does something; the argument names an operation.
-/

namespace BuildDispatch.Options

inductive Action
  | help
  | rootDir
  | bundled
  | list
  | verbose
  | dryRun
  | logFile
deriving Repr, DecidableEq

structure Switch where
  names : List Text
  /-- How help texts call the value, if the option takes one. -/
  value : Option Text := none
  action : Action
  help : Text
deriving Repr, DecidableEq

namespace Switch

/-- All names, as messages have them. -/
def label (s : Switch) : Text := Text.joinWith "/" s.names

end Switch

def switches : List Switch := [
  { names := ["-h", "--help"], action := .help, help := "show this help message and exit" },
  { names := ["--root-dir"], value := some "ROOT_DIR", action := .rootDir
    help := "Directory the toolchain runs in (default: current directory)" },
  { names := ["--bundled"], action := .bundled
    help := "Always build the bundled native library" },
  { names := ["--list"], action := .list, help := "List available operations and exit" },
  { names := ["--verbose", "-v"], action := .verbose, help := "Enable verbose output" },
  { names := ["--dry-run"], action := .dryRun
    help := "Log toolchain commands without running them" },
  { names := ["--log-file"], value := some "LOG_FILE", action := .logFile
    help := "Also write log output to this file" }]

/-- Every name with its option, in order. -/
def namedSwitches : List (Text × Switch) :=
  switches.flatMap fun s => s.names.map fun name => (name, s)

def switchNamed? (name : Text) : Option Switch :=
  (namedSwitches.find? (fun entry => entry.1 == name)).map Prod.snd

/-- How messages and help texts call the operation. -/
def operationLabel : Text := "operation"

def operationHelp : Text := "Operation to execute"

end BuildDispatch.Options
