import BuildDispatch.Proofs.Library.Lookup

/-!
# Setting the search path

A resolution binds one variable of an environment, or none. Its location and its directory tell
which, whether or not a lookup would ever end in the two together. So the laws of binding, which
know nothing of libraries, are all there is to say about several resolutions in turn.

## Main statements

* `Resolution.apply_augments`: places and values of what comes of an environment.
* `Resolution.apply_apply_of_eq`: of two resolutions with one variable, the second counts.
* `Resolution.find?_apply_comm`: with two variables, values do not tell which was first.
-/

namespace BuildDispatch.Resolution

variable {r : Resolution}

/-- The environment `after` is `env` with the directory of `r` in it, if `r` is a system copy that
has one. -/
structure Augments (r : Resolution) (env after : Environment) : Prop where
  unchanged : ¬ (r.location.isSystem = true ∧ r.directory ≠ none) → after = env
  /-- Keys keep their places, and a new one goes last. -/
  keys_eq : r.location.isSystem = true → r.directory ≠ none →
    after.keys = if r.searchPathVar ∈ env.keys then env.keys else env.keys ++ [r.searchPathVar]
  find?_searchPathVar : r.location.isSystem = true → r.directory ≠ none →
    after.find? r.searchPathVar = r.directory
  find?_of_ne : ∀ key ≠ r.searchPathVar, after.find? key = env.find? key

theorem apply_of_some {d : Text} (h : r.binding = some d) (env : Environment) :
    r.apply env = env.insert r.searchPathVar d := by
  rw [apply_eq, h]

theorem apply_of_none (h : r.binding = none) (env : Environment) : r.apply env = env := by
  rw [apply_eq, h]

theorem apply_augments (r : Resolution) (env : Environment) : r.Augments env (r.apply env) := by
  cases hbinding : r.binding with
  | none =>
    have hnot := binding_eq_none_iff.mp hbinding
    rw [apply_of_none hbinding]
    exact ⟨fun _ => rfl, fun hsystem hsome => absurd ⟨hsystem, hsome⟩ hnot,
      fun hsystem hsome => absurd ⟨hsystem, hsome⟩ hnot, fun _ _ => rfl⟩
  | some d =>
    obtain ⟨hsystem, hdirectory⟩ := binding_eq_some_iff.mp hbinding
    rw [apply_of_some hbinding]
    refine ⟨fun hnot => absurd ⟨hsystem, by simp [hdirectory]⟩ hnot, fun _ _ => ?_, fun _ _ => ?_,
      fun key hkey => ?_⟩
    · exact Bindings.keys_insert ..
    · rw [hdirectory]
      exact Bindings.find?_insert_self ..
    · exact Bindings.find?_insert_of_ne _ _ hkey

/-- After a resolution with the same variable, one that binds it might as well stand alone. -/
theorem apply_apply_of_eq {later : Resolution} (h : later.searchPathVar = r.searchPathVar)
    (env : Environment) :
    later.apply (r.apply env) =
      if later.usesSystemLibrary then later.apply env else r.apply env := by
  rw [← isSome_binding]
  cases hlater : later.binding with
  | none => exact apply_of_none hlater _
  | some d =>
    rw [Option.isSome_some, if_pos rfl, apply_of_some hlater, apply_of_some hlater]
    cases hbinding : r.binding with
    | none => rw [apply_of_none hbinding]
    | some d' => rw [apply_of_some hbinding, h, Bindings.insert_insert_self]

theorem apply_apply_self (r : Resolution) (env : Environment) :
    r.apply (r.apply env) = r.apply env := by
  rw [apply_apply_of_eq rfl, ite_self]

theorem find?_apply_comm {other : Resolution} (h : other.searchPathVar ≠ r.searchPathVar)
    (env : Environment) (key : Text) :
    (other.apply (r.apply env)).find? key = (r.apply (other.apply env)).find? key := by
  cases hbinding : r.binding with
  | none => rw [apply_of_none hbinding, apply_of_none hbinding]
  | some d =>
    cases hother : other.binding with
    | none => rw [apply_of_none hother, apply_of_none hother]
    | some d' =>
      simp only [apply_of_some hbinding, apply_of_some hother]
      exact Bindings.find?_insert_comm env h.symm d d' key

/-- What resolutions make of an environment, alone and in turn, whatever location and directory
they have. -/
theorem apply_laws (r : Resolution) (env : Environment) :
    r.Augments env (r.apply env) ∧
    r.apply (r.apply env) = r.apply env ∧
    (∀ later : Resolution, later.searchPathVar = r.searchPathVar →
      later.apply (r.apply env) =
        if later.usesSystemLibrary then later.apply env else r.apply env) ∧
    ∀ other : Resolution, other.searchPathVar ≠ r.searchPathVar → ∀ key,
      (other.apply (r.apply env)).find? key = (r.apply (other.apply env)).find? key :=
  ⟨r.apply_augments env, r.apply_apply_self env, fun _ h => apply_apply_of_eq h env,
    fun _ h key => find?_apply_comm h env key⟩

/-- The variable stands between others, and is bound to a directory whose text is empty. -/
theorem betweenOthers_laws :
    let env : Environment := .ofList [("PATH", "/bin"), ("Z_DIR", "/old"), ("LANG", "C")]
    let r : Resolution := ⟨.systemSecondary, some "", "Z_DIR"⟩
    let later : Resolution := ⟨.systemPrimary, some "/usr/lib", "Z_DIR"⟩
    let other : Resolution := ⟨.systemPrimary, some "/opt/lib", "Y_DIR"⟩
    (r.apply env).keys = (["PATH", "Z_DIR", "LANG"] : List Text) ∧
    (r.apply env).find? "Z_DIR" = some "" ∧
    later.apply (r.apply env) = later.apply env ∧
    ∀ key, (other.apply (r.apply env)).find? key = (r.apply (other.apply env)).find? key := by
  intro env r later other
  obtain ⟨augments, -, hlater, hother⟩ := r.apply_laws env
  refine ⟨?_, ?_, ?_, hother other (by decide)⟩
  · rw [augments.keys_eq rfl nofun]
    decide
  · exact augments.find?_searchPathVar rfl nofun
  · rw [hlater later rfl]
    exact if_pos rfl

end BuildDispatch.Resolution
