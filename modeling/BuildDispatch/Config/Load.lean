import BuildDispatch.Catalogue
import BuildDispatch.Config.Fields
import BuildDispatch.Library
import BuildDispatch.Path
import BuildDispatch.Yaml.Meaning

/-!
# Loading the configuration

Two files make up a configuration. `toolchain.yaml` names the toolchain and says how to look for
the native library, `operations.yaml` holds the catalogue. The library section and the whole
catalogue are checked when the files are loaded; the other sections are kept as they are and read
when they are needed.
-/

namespace BuildDispatch

open Config

/-- A configuration file: absent, octets to be read, or content already read. -/
inductive ConfigFile
  | absent
  | octets (content : Octets)
  | value (v : Value)
deriving Repr

structure ConfigFiles where
  toolchain : ConfigFile
  operations : ConfigFile
deriving Repr

/-- Why no configuration could be loaded. -/
inductive LoadFailure
  /-- A file is missing; `label` says which in a message. -/
  | missing (label path : Text)
  | unreadable (fault : Yaml.Fault)
  | rejected (rejection : Rejection)
deriving Repr, DecidableEq

def LoadFailure.message : LoadFailure → Text
  | missing label path => label ++ " config not found: " ++ path
  | unreadable fault => fault.message
  | rejected rejection => rejection.message

/-- A loaded configuration. -/
structure Configuration where
  /-- All of the toolchain file. -/
  toolchain : Value
  catalogue : Catalogue
  library : LibrarySettings
deriving Repr

namespace ConfigFile

/-- The content of a file that exists. A file without content counts as an empty mapping. -/
def read (file : ConfigFile) (label path : Text) : Except LoadFailure Value :=
  let found : Except LoadFailure Value :=
    match file with
    | .absent => .error (.missing label path)
    | .value v => .ok v
    | .octets content => (Yaml.valueOf (.ofOctets content)).mapError .unreadable
  found.map fun v => if v.isNothing then .emptyMapping else v

end ConfigFile

namespace Config

def parseLibrary (toolchain : Value) : Checked LibrarySettings := do
  let library ← require toolchain "library" "toolchain.yaml"
  let candidateDirs ← requireTexts library "candidate_dirs" "library" "library.candidate_dirs"
  if candidateDirs.isEmpty then reject .noCandidates
  else
    let name ← optionalText library "name" "native library"
    let filename ← requireText library "filename" "library"
    let searchPathVar ← requireText library "search_path_var" "library"
    let overrideVar ← requireText library "override_var" "library"
    .ok { name, filename, candidateDirs, searchPathVar, overrideVar }

/-- The kind that an entry names. -/
def parseKind (entry : Value) (place : Text) : Checked Kind := do
  let v ← require entry "kind" place
  match v.view with
  | .str t => if kindNames.contains t then .ok (.ofText t) else reject (.unknownKind t place)
  | _ => reject (.unknownKind (← textOf v) place)

def parseHelper (entry : Value) (place : Text) : Checked HelperTool := do
  let helper ← require entry "helper" place
  let within := place ++ " helper"
  let name ← requireText helper "name" within
  let checkArgs ← requireTexts helper "check_args" within (within ++ ".check_args")
  let installArgs ← requireTexts helper "install_args" within (within ++ ".install_args")
  .ok { name, checkArgs, installArgs }

def parseEntry (key entry : Value) : Checked Entry := do
  let name ← textOf key
  let place := "operation '" ++ name ++ "'"
  let kind ← parseKind entry place
  let helper ← if kind = .helper then (parseHelper entry place).map some else .ok none
  let args ← optionalTexts entry "args" (place ++ " args")
  if kind ≠ .info ∧ args = [] then reject (.noArguments place)
  else
    let description ← optionalText entry "description" ""
    let aliases ← optionalTexts entry "aliases" (place ++ " aliases")
    .ok
      { name
        kind
        description
        args
        usesBuildEnv := ((optional entry "uses_build_env").map fun v => !v.isNothing).getD false
        channel := (optional entry "channel").getD .null
        outputFilter := (optional entry "output_filter").getD .null
        aliases
        helper }

/-- Add the entries one after the other. -/
def addEntries : Catalogue → List (Value × Value) → Checked Catalogue
  | c, [] => .ok c
  | c, (key, entry) :: rest => do
    let e ← parseEntry key entry
    let c ← (c.addNew e).mapError .fault
    addEntries c rest

def parseOperations (operations : Value) : Checked Catalogue := do
  let entries ← require operations "operations" "operations.yaml"
  match entries.view with
  | .mapping [] => reject .noOperations
  | .mapping pairs => addEntries .empty pairs
  | _ => reject .noOperations

/-- Check the content of both files, the catalogue first. -/
def check (toolchain operations : Value) : Checked Configuration := do
  let catalogue ← parseOperations operations
  let library ← parseLibrary toolchain
  .ok { toolchain, catalogue, library }

end Config

/-- Load a configuration from the files of a directory, the toolchain file first. -/
def ConfigFiles.load (files : ConfigFiles) (directory : Text) :
    Except LoadFailure Configuration := do
  let toolchain ← files.toolchain.read "Toolchain" (Path.joinText directory "toolchain.yaml")
  let operations ← files.operations.read "Operations" (Path.joinText directory "operations.yaml")
  (check toolchain operations).mapError .rejected

end BuildDispatch
