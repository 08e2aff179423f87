import BuildDispatch.Bindings
import BuildDispatch.Path
import BuildDispatch.Text.Quoted

/-!
# The native library

Where the native library that a build links against comes from. A lookup ends in a `Resolution`,
and a resolution that names a system directory adds one variable to the environment of a build.
-/

namespace BuildDispatch

/-- Where and how to look for the system copy of the native library. -/
structure LibrarySettings where
  name : Text
  filename : Text
  /-- The directories to look in, the first match winning. -/
  candidateDirs : List Text
  /-- The variable that names the directory of a system copy to a build. -/
  searchPathVar : Text
  /-- The variable whose presence rules out the system copy. -/
  overrideVar : Text
deriving Repr, DecidableEq

/-- The file in each of the candidate directories. -/
def LibrarySettings.lookupPaths (s : LibrarySettings) : List Text :=
  s.candidateDirs.map fun d => Path.joinText d s.filename

inductive Location
  | undetermined
  | systemPrimary
  | systemSecondary
  | bundled
deriving Repr, DecidableEq

namespace Location

def isSystem : Location → Bool
  | systemPrimary | systemSecondary => true
  | _ => false

def text : Location → String
  | undetermined => "undetermined"
  | systemPrimary => "system-primary"
  | systemSecondary => "system-secondary"
  | bundled => "bundled"

def all : List Location := [undetermined, systemPrimary, systemSecondary, bundled]

def ofText? (s : String) : Option Location := all.find? (fun l => l.text == s)

end Location

/-- The outcome of a lookup. -/
structure Resolution where
  location : Location
  directory : Option Text
  searchPathVar : Text
deriving Repr, DecidableEq

namespace Resolution

def bundled (searchPathVar : Text) : Resolution := ⟨.bundled, none, searchPathVar⟩

def usesSystemLibrary (r : Resolution) : Bool := r.location.isSystem && r.directory.isSome

/-- The variables that the resolution sets. -/
def overrides (r : Resolution) : List (Text × Text) :=
  if r.location.isSystem then
    match r.directory with
    | some d => [(r.searchPathVar, d)]
    | none => []
  else []

/-- An environment with the variables of the resolution set. -/
def apply (r : Resolution) (env : Environment) : Environment := env.insertAll r.overrides

def describe (r : Resolution) : Text :=
  if r.usesSystemLibrary then "system library in " ++ r.directory.getD []
  else if r.location = .bundled then "bundled library"
  else "undetermined"

/-- The resolution as it is written for diagnosis. -/
def text (r : Resolution) : Text :=
  "LibraryResolution(location=" ++ Text.quoted r.location.text ++ ", directory=" ++
    (match r.directory with
      | some d => Text.quoted d
      | none => "None") ++ ")"

end Resolution
end BuildDispatch
