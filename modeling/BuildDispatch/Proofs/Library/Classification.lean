import BuildDispatch.Proofs.Library.Lookup

/-!
# What a lookup comes to

The first candidate directory that holds the library decides: the location is primary if this is
the first candidate of all, and secondary wherever else it stands. The location is told from the
text of the directory, and the same text may stand among the candidates more than once; but what
reads the same is asked for under the same path, so that an earlier place would have been the hit.

## Main statements

* `LibrarySettings.found_eq_some_iff`: the directory that is found, said on the candidates.
* `LibrarySettings.classified_outcome`: the location, said on the candidates.
* `LibrarySettings.settled_outcome`: what is read off a resolution agrees with its location.
* `LibrarySettings.resolve_classified`: all of this for every lookup.
-/

namespace BuildDispatch

/-! ### What is read off a resolution -/

/-- Location and directory agree, and so does all that is read off them. -/
structure Resolution.Settled (r : Resolution) (searchPathVar : Text) : Prop where
  usesSystemLibrary_eq : r.usesSystemLibrary = r.location.isSystem
  isSome_directory : r.directory.isSome = r.location.isSystem
  overrides_eq : r.overrides = (r.directory.map fun d => (searchPathVar, d)).toList
  describe_eq : r.describe =
    match r.directory with
    | some d => "system library in " ++ d
    | none => "bundled library"
  describe_ne : r.describe ≠ "undetermined"

namespace Resolution

theorem settled_bundled (searchPathVar : Text) :
    (bundled searchPathVar).Settled searchPathVar where
  usesSystemLibrary_eq := rfl
  isSome_directory := rfl
  overrides_eq := rfl
  describe_eq := rfl
  describe_ne := by
    have hdescribe : (bundled searchPathVar).describe = "bundled library" := rfl
    rw [hdescribe]
    decide

/-- A directory counts even if its text is empty. -/
theorem settled_of_isSystem {location : Location} (h : location.isSystem = true)
    (d searchPathVar : Text) :
    (⟨location, some d, searchPathVar⟩ : Resolution).Settled searchPathVar := by
  have huses : (⟨location, some d, searchPathVar⟩ : Resolution).usesSystemLibrary = true := by
    simp [usesSystemLibrary, h]
  have hdescribe : (⟨location, some d, searchPathVar⟩ : Resolution).describe =
      "system library in " ++ d := by
    simp [describe, huses]
  refine ⟨huses.trans h.symm, h.symm, ?_, hdescribe, ?_⟩
  · simp [overrides, h]
  · rw [hdescribe]
    intro heq
    cases heq

end Resolution

namespace LibrarySettings

/-- The library file is there in this directory. -/
def Holds (s : LibrarySettings) (w : World) (d : Text) : Prop :=
  w.present (Path.joinText d s.filename) = true

/-- The directory holds the library, and no candidate before it does. -/
def FirstHit (s : LibrarySettings) (w : World) (d : Text) : Prop :=
  ∃ before after, s.candidateDirs = before ++ d :: after ∧ s.Holds w d ∧
    ∀ b ∈ before, ¬ s.Holds w b

/-- The resolution says which of the candidates hold the library. -/
structure Classified (s : LibrarySettings) (w : World) (r : Resolution) : Prop where
  primary_iff : r.location = .systemPrimary ↔
    ∃ first later, s.candidateDirs = first :: later ∧ s.Holds w first
  secondary_iff : r.location = .systemSecondary ↔
    ∃ first later, s.candidateDirs = first :: later ∧ ¬ s.Holds w first ∧
      ∃ d ∈ later, s.Holds w d
  bundled_iff : r.location = .bundled ↔ ∀ d ∈ s.candidateDirs, ¬ s.Holds w d
  directory_eq_some_iff : ∀ d, r.directory = some d ↔ s.FirstHit w d

variable {s : LibrarySettings} {w : World} {d first : Text} {later : List Text}

/-! ### The directory -/

theorem found_eq_some_iff : s.found w true = some d ↔ s.FirstHit w d := by
  simp only [found, if_true, List.find?_eq_some_iff_append]
  constructor
  · rintro ⟨hd, before, after, hdirs, hbefore⟩
    exact ⟨before, after, hdirs, hd, fun b hb => by simpa [Holds] using hbefore b hb⟩
  · rintro ⟨before, after, hdirs, hd, hbefore⟩
    exact ⟨hd, before, after, hdirs, fun b hb => by simpa [Holds] using hbefore b hb⟩

theorem found_eq_none_iff :
    s.found w true = none ↔ ∀ d ∈ s.candidateDirs, ¬ s.Holds w d := by
  simp [found, Holds]

/-! ### The location -/

section FirstHit

variable (hdirs : s.candidateDirs = first :: later)

include hdirs

theorem firstHit_of_holds (h : s.Holds w first) : s.FirstHit w first :=
  ⟨[], later, hdirs, h, by simp⟩

theorem locationOf_first : s.locationOf first = .systemPrimary := by
  rw [locationOf_cons hdirs, if_pos rfl]

/-- Where the first candidate does not hold the library, nothing that reads like it is a hit. -/
theorem FirstHit.behind (h : s.FirstHit w d) (hfirst : ¬ s.Holds w first) :
    d ∈ later ∧ s.locationOf d = .systemSecondary := by
  obtain ⟨before, after, hsplit, hd, -⟩ := h
  have hne : first ≠ d := by
    rintro rfl
    exact hfirst hd
  have hmem : d ∈ first :: later := by
    rw [← hdirs, hsplit]
    simp
  refine ⟨(List.mem_cons.mp hmem).resolve_left hne.symm, ?_⟩
  rw [locationOf_cons hdirs, if_neg hne]

end FirstHit

/-- A hit on the first candidate is primary, and any other hit is secondary. -/
theorem classified_of_firstHit (h : s.FirstHit w d) :
    s.Classified w ⟨s.locationOf d, some d, s.searchPathVar⟩ := by
  have hfound : s.found w true = some d := found_eq_some_iff.mpr h
  have hdirectory (d' : Text) : some d = some d' ↔ s.FirstHit w d' := by
    rw [← found_eq_some_iff, hfound]
  have hmem : d ∈ s.candidateDirs := by
    obtain ⟨before, after, hsplit, -⟩ := h
    simp [hsplit]
  have hd : s.Holds w d := by
    obtain ⟨-, -, -, hd, -⟩ := h
    exact hd
  have hsome : ¬ ∀ b ∈ s.candidateDirs, ¬ s.Holds w b := fun hnone => hnone d hmem hd
  obtain ⟨first, later, hdirs⟩ := List.exists_cons_of_ne_nil (List.ne_nil_of_mem hmem)
  by_cases hfirst : s.Holds w first
  · -- The first candidate is a hit, too, and there is only one.
    have hsame : some d = some first := (hdirectory first).mpr (firstHit_of_holds hdirs hfirst)
    obtain rfl : d = first := Option.some.inj hsame
    have hlocation : s.locationOf d = .systemPrimary := locationOf_first hdirs
    refine ⟨iff_of_true hlocation ⟨d, later, hdirs, hfirst⟩, iff_of_false ?_ ?_,
      iff_of_false ?_ hsome, hdirectory⟩
    · simp [hlocation]
    · rintro ⟨other, rest, hother, hnot, -⟩
      grind
    · simp [hlocation]
  · obtain ⟨hlater, hlocation⟩ := h.behind hdirs hfirst
    refine ⟨iff_of_false ?_ ?_, iff_of_true hlocation ⟨first, later, hdirs, hfirst, d, hlater, hd⟩,
      iff_of_false ?_ hsome, hdirectory⟩
    · simp [hlocation]
    · rintro ⟨other, rest, hother, hholds⟩
      grind
    · simp [hlocation]

theorem classified_bundled (h : ∀ d ∈ s.candidateDirs, ¬ s.Holds w d) :
    s.Classified w (.bundled s.searchPathVar) := by
  have hfound : s.found w true = none := found_eq_none_iff.mpr h
  refine ⟨iff_of_false nofun ?_, iff_of_false nofun ?_, iff_of_true rfl h, fun d => ?_⟩
  · rintro ⟨first, later, hdirs, hfirst⟩
    exact h first (by simp [hdirs]) hfirst
  · rintro ⟨first, later, hdirs, -, d, hd, hholds⟩
    exact h d (by simp [hdirs, hd]) hholds
  · rw [← found_eq_some_iff, hfound]
    exact iff_of_false nofun nofun

/-! ### Outcomes -/

theorem classified_outcome (s : LibrarySettings) (w : World) :
    s.Classified w (s.outcome w true) := by
  unfold outcome
  cases hfound : s.found w true with
  | some d => exact classified_of_firstHit (found_eq_some_iff.mp hfound)
  | none => exact classified_bundled (found_eq_none_iff.mp hfound)

theorem settled_outcome (s : LibrarySettings) (w : World) (useSystem : Bool) :
    (s.outcome w useSystem).Settled s.searchPathVar := by
  unfold outcome
  cases s.found w useSystem with
  | some d => exact Resolution.settled_of_isSystem (s.isSystem_locationOf d) d s.searchPathVar
  | none => exact Resolution.settled_bundled s.searchPathVar

/-- A lookup never fails. Its outcome says which of the candidates hold the library, and everything
that is read off it agrees. Where the system copy is ruled out nothing is asked, and the outcome is
the bundled copy. -/
theorem resolve_classified (s : LibrarySettings) (l : Log.Logger) (w : World) :
    (∃ r, (s.resolve l w true).result = .ok r ∧ s.Classified w r ∧ r.Settled s.searchPathVar) ∧
    (∃ r, (s.resolve l w false).result = .ok r ∧ r.location = .bundled ∧ r.directory = none ∧
      r.Settled s.searchPathVar) ∧
    (s.resolve l w false).events.queries = [] := by
  refine ⟨⟨_, s.resolve_result l w true, s.classified_outcome w, s.settled_outcome w true⟩,
    ⟨_, s.resolve_result l w false, rfl, rfl, s.settled_outcome w false⟩, ?_⟩
  exact s.queries_resolve l w false

/-- The empty text counts as a directory, and a later candidate may repeat it. -/
example :
    let s : LibrarySettings :=
      { name := "z", filename := "libz.so", candidateDirs := ["/usr/lib", "", ""],
        searchPathVar := "Z_DIR", overrideVar := "Z_BUNDLED" }
    s.outcome { World.nowhere with present := fun path => path == "libz.so" } true =
      ⟨.systemSecondary, some "", "Z_DIR"⟩ := by
  decide

end LibrarySettings
end BuildDispatch
