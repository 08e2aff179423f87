import BuildDispatch.Library.Lookup
import BuildDispatch.Proofs.Bindings
import BuildDispatch.Proofs.Run
import Mathlib.Data.List.Basic

/-!
# Where the library is found

A lookup asks for the library file in one candidate directory after the other and stops at the
first hit. It never fails, so that its outcome, and with it the environment of a build, can be told
from the world alone.

## Main statements

* `findLibraryDir_eq`: the questions that are asked, and the directory that is found.
* `LibrarySettings.resolve_result`, `LibrarySettings.queries_resolve`: the same for a resolution.
* `Resolution.apply_eq`: a resolution binds one variable, or none.
* `LibrarySettings.apply_outcome`: what the outcome makes of an environment.
-/

namespace BuildDispatch

open Run

/-- The paths that are asked for: all up to the first that is there, and that one. -/
def World.asked (w : World) (paths : List Text) : List Text :=
  paths.takeWhile (fun path => !w.present path) ++ (paths.find? w.present).toList

theorem World.asked_of_present {w : World} {path : Text} (h : w.present path = true)
    (rest : List Text) : w.asked (path :: rest) = [path] := by
  simp [asked, h]

theorem World.asked_of_absent {w : World} {path : Text} (h : w.present path = false)
    (rest : List Text) : w.asked (path :: rest) = path :: w.asked rest := by
  simp [asked, h]

/-- The first path that is there is the last that is asked for. -/
theorem World.asked_of_find? {w : World} {paths : List Text} {path : Text}
    (h : paths.find? w.present = some path) :
    ∃ absent, w.asked paths = absent ++ [path] ∧ ∀ other ∈ absent, w.present other = false := by
  refine ⟨paths.takeWhile fun other => !w.present other, ?_, fun other hother => ?_⟩
  · rw [asked, h, Option.toList_some]
  · simpa using List.all_eq_true.mp List.all_takeWhile other hother

theorem findLibraryDir_eq (w : World) (filename : Text) (dirs : List Text) :
    findLibraryDir w filename dirs =
      ⟨(w.asked (dirs.map fun d => Path.joinText d filename)).map .queried,
        .ok (dirs.find? fun d => w.present (Path.joinText d filename))⟩ := by
  induction dirs with
  | nil => rfl
  | cons d rest ih =>
    rw [findLibraryDir, bind_of_ok rfl, List.map_cons]
    cases h : w.present (Path.joinText d filename) with
    | true => simp [World.asked_of_present h, h]
    | false => simp [World.asked_of_absent h, h, ih]

/-! ### What a resolution binds -/

namespace Resolution

/-- The directory that the variable is bound to, if it is bound at all. -/
def binding (r : Resolution) : Option Text := if r.location.isSystem then r.directory else none

theorem binding_eq_some_iff {r : Resolution} {d : Text} :
    r.binding = some d ↔ r.location.isSystem = true ∧ r.directory = some d := by
  simp [binding]

theorem binding_eq_none_iff {r : Resolution} :
    r.binding = none ↔ ¬ (r.location.isSystem = true ∧ r.directory ≠ none) := by
  simp [binding]

theorem isSome_binding (r : Resolution) : r.binding.isSome = r.usesSystemLibrary := by
  unfold usesSystemLibrary binding
  cases r.location.isSystem <;> rfl

theorem apply_eq (r : Resolution) (env : Environment) :
    r.apply env =
      match r.binding with
      | some d => env.insert r.searchPathVar d
      | none => env := by
  unfold apply overrides binding
  cases r.location.isSystem with
  | false => rfl
  | true => cases r.directory <;> rfl

end Resolution

namespace LibrarySettings

/-- The first candidate directory that holds the library, where a system copy may be used. -/
def found (s : LibrarySettings) (w : World) (useSystem : Bool) : Option Text :=
  if useSystem then s.candidateDirs.find? fun d => w.present (Path.joinText d s.filename)
  else none

/-- The resolution that a lookup ends in. -/
def outcome (s : LibrarySettings) (w : World) (useSystem : Bool) : Resolution :=
  match s.found w useSystem with
  | some d => ⟨s.locationOf d, some d, s.searchPathVar⟩
  | none => .bundled s.searchPathVar

section Resolve

variable (s : LibrarySettings) (l : Log.Logger) (w : World) (useSystem : Bool)

theorem resolve_shows :
    (s.resolve l w useSystem).Shows Event.isDeed
      ((if useSystem then w.asked s.lookupPaths else []).map .queried)
      (.ok (s.outcome w useSystem)) := by
  have said : ∀ level message (r : Resolution),
      (do l.say level lookupSource message; pure r : Run Resolution).Shows Event.isDeed []
        (.ok r) :=
    fun level message r => Shows.after (shows_pure r) (shows_say l level _ message fun _ => rfl)
  cases useSystem with
  | false => exact said _ _ _
  | true =>
    have asked : (findLibraryDir w s.filename s.candidateDirs).Shows Event.isDeed
        ((w.asked s.lookupPaths).map .queried) (.ok (s.found w true)) := by
      rw [findLibraryDir_eq]
      exact ⟨List.filter_eq_self.mpr (by simp [Event.isDeed]), rfl⟩
    unfold resolve outcome
    cases hfound : s.found w true with
    | none =>
      rw [hfound] at asked
      exact asked.before (said _ _ _)
    | some d =>
      rw [hfound] at asked
      exact asked.before (said _ _ _)

theorem resolve_result : (s.resolve l w useSystem).result = .ok (s.outcome w useSystem) :=
  (s.resolve_shows l w useSystem).result

theorem queries_resolve :
    (s.resolve l w useSystem).events.queries = if useSystem then w.asked s.lookupPaths else [] := by
  rw [← Trace.queries_filter_isDeed, (s.resolve_shows l w useSystem).events,
    Trace.queries_map_queried]

theorem findLibraryDir_every {P : Event → Prop} (hqueried : ∀ path, P (.queried path))
    (w : World) (filename : Text) (dirs : List Text) :
    (findLibraryDir w filename dirs).Every P := by
  induction dirs with
  | nil => exact every_pure _
  | cons d rest ih =>
    refine (every_emit (hqueried _)).bind fun _ _ => ?_
    split
    · exact every_pure _
    · exact ih

/-- A lookup asks and logs, under a source of its own and nothing worse than information. -/
theorem resolve_every {P : Event → Prop} (hqueried : ∀ path, P (.queried path))
    (hlogged : ∀ level message, level ≤ Log.Level.info →
      P (.logged ⟨level, lookupSource, message⟩)) : (s.resolve l w useSystem).Every P := by
  have said (level : Log.Level) (message : Text) (r : Resolution)
      (hlevel : level ≤ Log.Level.info) :
      (do l.say level lookupSource message; pure r : Run Resolution).Every P :=
    (every_say_of (hlogged level message hlevel) l).bind fun _ _ => every_pure _
  unfold resolve
  split
  · exact said .info _ _ (by decide)
  · refine (findLibraryDir_every hqueried _ _ _).bind fun found _ => ?_
    split
    · exact said .debug _ _ (by decide)
    · exact said .info _ _ (by decide)

end Resolve

/-! ### The environment of a build -/

/-- Only the first of the candidates is the primary location. -/
theorem locationOf_cons {s : LibrarySettings} {first : Text} {later : List Text}
    (h : s.candidateDirs = first :: later) (d : Text) :
    s.locationOf d = if first = d then .systemPrimary else .systemSecondary := by
  have hplace : min (s.candidateDirs.idxOf d) (locations.length - 1) =
      if first = d then 0 else 1 := by
    rw [h]
    by_cases hd : first = d
    · simp [hd]
    · simp [List.idxOf_cons_ne later hd, hd, locations]
  unfold locationOf
  simp only [hplace]
  split <;> rfl

theorem isSystem_locationOf (s : LibrarySettings) (d : Text) :
    (s.locationOf d).isSystem = true := by
  have hall : ∀ place : Fin locations.length, (locations.get place).isSystem = true := by decide
  exact hall _

theorem directory_outcome (s : LibrarySettings) (w : World) (useSystem : Bool) :
    (s.outcome w useSystem).directory = s.found w useSystem := by
  unfold outcome
  cases s.found w useSystem <;> rfl

theorem binding_outcome (s : LibrarySettings) (w : World) (useSystem : Bool) :
    (s.outcome w useSystem).binding = s.found w useSystem := by
  unfold outcome
  cases s.found w useSystem with
  | none => rfl
  | some d => exact Resolution.binding_eq_some_iff.mpr ⟨s.isSystem_locationOf d, rfl⟩

theorem searchPathVar_outcome (s : LibrarySettings) (w : World) (useSystem : Bool) :
    (s.outcome w useSystem).searchPathVar = s.searchPathVar := by
  unfold outcome
  cases s.found w useSystem <;> rfl

theorem usesSystemLibrary_outcome (s : LibrarySettings) (w : World) (useSystem : Bool) :
    (s.outcome w useSystem).usesSystemLibrary = (s.found w useSystem).isSome := by
  rw [← Resolution.isSome_binding, binding_outcome]

/-- A directory that was found is bound to its variable; otherwise nothing is set. -/
theorem apply_outcome (s : LibrarySettings) (w : World) (useSystem : Bool) (env : Environment) :
    (s.outcome w useSystem).apply env =
      match s.found w useSystem with
      | some d => env.insert s.searchPathVar d
      | none => env := by
  rw [Resolution.apply_eq, binding_outcome, searchPathVar_outcome]

end LibrarySettings
end BuildDispatch
