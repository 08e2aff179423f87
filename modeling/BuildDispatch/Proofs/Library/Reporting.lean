import BuildDispatch.Proofs.Library.Lookup
import BuildDispatch.Proofs.Path

/-!
# What a lookup reports

A lookup asks for a text that is joined as it stands, and reports a path that is joined in normal
form. The two are the same path: the report names what was asked for last, which is the first of the
lookup paths that is there. A lookup that finds nothing names no path as found.

## Main statements

* `LibrarySettings.resolve_of_found`: the whole of a lookup that finds the library.
* `LibrarySettings.probed_reported`: the report of every lookup.
-/

namespace BuildDispatch

open Run

namespace LibrarySettings

/-- The record that names a path as that of the system copy. -/
def report (s : LibrarySettings) (path : Path) : Log.Record :=
  ⟨.info, lookupSource, "Using system " ++ s.name ++ ": " ++ path.text⟩

/-- The run `r` of a lookup is decided by `path`, and reports it. -/
structure Reports (s : LibrarySettings) (w : World) (r : Run Resolution) (path : Text) : Prop where
  present : w.present path = true
  queries : ∃ absent, r.events.queries = absent ++ [path] ∧
    ∀ other ∈ absent, w.present other = false
  result : ∃ d ∈ s.candidateDirs, Path.joinText d s.filename = path ∧
    r.result = .ok ⟨s.locationOf d, some d, s.searchPathVar⟩
  records : r.events.records = [s.report (Path.ofText path)]

variable {s : LibrarySettings} {w : World}

/-! ### The path that decides -/

/-- The first of the paths to ask for that is there. -/
def decisive (s : LibrarySettings) (w : World) (useSystem : Bool) : Option Text :=
  (if useSystem then s.lookupPaths else []).find? w.present

theorem decisive_eq (s : LibrarySettings) (w : World) (useSystem : Bool) :
    s.decisive w useSystem =
      (s.found w useSystem).map fun d => Path.joinText d s.filename := by
  cases useSystem with
  | false => rfl
  | true =>
    simp only [decisive, found, if_true, lookupPaths, List.find?_map]
    rfl

/-! ### The record of a lookup -/

theorem resolve_of_found (l : Log.Logger) {d : Text} (h : s.found w true = some d) :
    s.resolve l w true =
      ⟨(w.asked s.lookupPaths).map .queried ++
          [.logged (s.report ((Path.ofText d).join (Path.ofText s.filename)))],
        .ok ⟨s.locationOf d, some d, s.searchPathVar⟩⟩ := by
  have hfind : findLibraryDir w s.filename s.candidateDirs =
      ⟨(w.asked s.lookupPaths).map .queried, .ok (some d)⟩ := by
    rw [findLibraryDir_eq, ← h]
    rfl
  unfold resolve
  rw [hfind, if_neg (by decide), bind_of_ok rfl]
  dsimp only
  rw [say_of_info_le (Int.le_refl _), bind_of_ok rfl]
  rfl

/-- The message about a system copy that is ruled out begins otherwise, and that about one that is
missing is only for diagnosis. -/
theorem resolve_every_ne_report (l : Log.Logger) {useSystem : Bool}
    (h : s.found w useSystem = none) :
    (s.resolve l w useSystem).Every fun ev => ∀ path, ev ≠ .logged (s.report path) := by
  unfold resolve
  cases useSystem with
  | false =>
    refine (every_say_of (fun path heq => ?_) l).bind fun _ _ => every_pure _
    have hmessage := congrArg Log.Record.message (Event.logged.inj heq)
    cases hmessage
  | true =>
    refine (findLibraryDir_every (fun _ _ => nofun) w _ _).bind fun d hd => ?_
    rw [findLibraryDir_eq] at hd
    obtain rfl : none = d := h.symm.trans (Except.ok.inj hd)
    refine (every_say_of (fun path heq => ?_) l).bind fun _ _ => every_pure _
    have hlevel := congrArg Log.Record.level (Event.logged.inj heq)
    cases hlevel

theorem reports_of_found (l : Log.Logger) {d : Text} (h : s.found w true = some d) :
    s.Reports w (s.resolve l w true) (Path.joinText d s.filename) := by
  have hfirst : s.lookupPaths.find? w.present = some (Path.joinText d s.filename) := by
    have hdecisive := s.decisive_eq w true
    rwa [h] at hdecisive
  refine ⟨List.find?_some hfirst, ?_, ⟨d, List.mem_of_find?_eq_some h, rfl, ?_⟩, ?_⟩
  · rw [queries_resolve, if_pos rfl]
    exact World.asked_of_find? hfirst
  · rw [resolve_of_found l h]
  · rw [resolve_of_found l h, Path.ofText_joinText, Trace.records_append,
      Trace.records_map_queried]
    rfl

/-- Joining texts and joining normal forms lead to one path, and every normal form is read back from
its text. So the path that a lookup reports is that of the text whose existence decided it. -/
theorem probed_reported :
    (∀ directory name, (Path.ofText directory).join (Path.ofText name) =
      Path.ofText (Path.joinText directory name)) ∧
    (∀ t, (Path.ofText t).IsNormal) ∧ (∀ p : Path, Path.ofText p.text = p ↔ p.IsNormal) ∧
    ∀ (s : LibrarySettings) (l : Log.Logger) (w : World) (useSystem : Bool),
      match s.decisive w useSystem with
      | some path => s.Reports w (s.resolve l w useSystem) path
      | none => ∀ path, s.report path ∉ (s.resolve l w useSystem).events.records := by
  refine ⟨fun directory name => (Path.ofText_joinText directory name).symm, Path.isNormal_ofText,
    fun _ => Path.ofText_text_eq_self_iff, fun s l w useSystem => ?_⟩
  rw [decisive_eq]
  cases hfound : s.found w useSystem with
  | none =>
    intro path hmem
    exact resolve_every_ne_report l hfound _ (Trace.mem_records.mp hmem) path rfl
  | some d =>
    cases useSystem with
    | false => cases hfound
    | true => exact reports_of_found l hfound

/-- Two leading slashes are kept, and so is the way up; single dots and other slashes go. -/
example : (Path.ofText (Path.joinText "//opt/./" "../lib//libz.so")).text =
    "//opt/../lib/libz.so" := by
  decide

end LibrarySettings
end BuildDispatch
