import BuildDispatch.Command.Runner
import BuildDispatch.Library

/-!
# Looking for the native library

The candidate directories are asked in order, up to the first that holds the library file. A hit
on the first candidate is the primary location, any later one a secondary location.
-/

namespace BuildDispatch

/-- The source that the records of a lookup name. -/
def lookupSource : Text := "mlm_build.platform"

/-- The first candidate that holds the file. -/
def findLibraryDir (w : World) (filename : Text) : List Text → Run (Option Text)
  | [] => pure none
  | d :: rest => do
    .emit (.queried (Path.joinText d filename))
    if w.present (Path.joinText d filename) then pure (some d) else findLibraryDir w filename rest

namespace LibrarySettings

/-- The locations by the place among the candidates; the last one goes for all later places. -/
def locations : List Location := [.systemPrimary, .systemSecondary]

theorem place_lt (place : Nat) : min place (locations.length - 1) < locations.length :=
  Nat.lt_of_le_of_lt (Nat.min_le_right ..) (by decide)

/-- The location of a directory by its first place among the candidates. -/
def locationOf (s : LibrarySettings) (directory : Text) : Location :=
  locations.get ⟨_, place_lt (s.candidateDirs.idxOf directory)⟩

/-- Decide where the library comes from. Where the system copy is ruled out nothing is asked. -/
def resolve (s : LibrarySettings) (l : Log.Logger) (w : World) (useSystem : Bool) :
    Run Resolution := do
  if !useSystem then
    l.say .info lookupSource
      ("System " ++ s.name ++ " disabled by " ++ s.overrideVar ++ ", using bundled build")
    pure (.bundled s.searchPathVar)
  else
    match ← findLibraryDir w s.filename s.candidateDirs with
    | none =>
      l.say .debug lookupSource
        (s.filename ++ " not found in " ++ Text.joinWith ", " s.candidateDirs ++
          ", using bundled build")
      pure (.bundled s.searchPathVar)
    | some d =>
      l.say .info lookupSource
        ("Using system " ++ s.name ++ ": " ++ ((Path.ofText d).join (Path.ofText s.filename)).text)
      pure ⟨s.locationOf d, some d, s.searchPathVar⟩

end LibrarySettings
end BuildDispatch
