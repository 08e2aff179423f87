import BuildDispatch.Proofs.Config.Entry

/-!
# Which configurations are accepted

Loading either succeeds or finds a fault, and it succeeds exactly for files of the right shape. What
the right shape is, is said here about values alone: no check, no order of checks and no message
comes into it.

## Main statements

* `Config.IsOperation`, `Config.DeclaresOperations`, `Config.DeclaresLibrary`: the right shapes.
* `Config.decides_parseEntry`: when an entry is read.
* `load_decided`: when a configuration is loaded.
-/

namespace BuildDispatch

namespace Config

/-! ### Shapes -/

/-- The entry says that it is of the kind with this name. -/
def HasKind (entry : Value) (kind : Text) : Prop :=
  ∃ v, optional entry "kind" = some v ∧ v.view = .str kind

/-- There is null or a list under the key. -/
def HasListOrNull (v : Value) (key : Text) : Prop :=
  ∃ part, optional v key = some part ∧ part.IsListOrNull

/-- A value that describes a helper tool. -/
structure IsHelper (helper : Value) : Prop where
  name : ∃ part, optional helper "name" = some part
  checkArgs : HasListOrNull helper "check_args"
  installArgs : HasListOrNull helper "install_args"

/-- A value that describes an operation. -/
structure IsOperation (entry : Value) : Prop where
  kind : HasKind entry "forward" ∨ HasKind entry "helper" ∨ HasKind entry "info"
  helper : HasKind entry "helper" → ∃ part, optional entry "helper" = some part ∧ IsHelper part
  args : ∀ part, optional entry "args" = some part → part.IsListOrNull
  /-- Only a report needs no arguments. -/
  args_ne_nil : ¬ HasKind entry "info" → itemsAt entry "args" ≠ []
  aliases : ∀ part, optional entry "aliases" = some part → part.IsListOrNull

/-- The names of an operation as texts, its aliases behind its key. -/
def declaredNames (pair : Value × Value) : List Text :=
  pair.1.str :: (itemsAt pair.2 "aliases").map Value.str

/-- The shape of the operations file. -/
def DeclaresOperations (operations : Value) : Prop :=
  ∃ part pairs, optional operations "operations" = some part ∧ part.view = .mapping pairs ∧
    pairs ≠ [] ∧ (∀ pair ∈ pairs, IsOperation pair.2) ∧ (pairs.flatMap declaredNames).Nodup

/-- The shape of the toolchain file. -/
def DeclaresLibrary (toolchain : Value) : Prop :=
  ∃ library, optional toolchain "library" = some library ∧
    (∃ part, optional library "filename" = some part) ∧
    (∃ part, optional library "search_path_var" = some part) ∧
    (∃ part, optional library "override_var" = some part) ∧
    itemsAt library "candidate_dirs" ≠ []

/-! ### Entries -/

theorem HasKind.eq {entry : Value} {t u : Text} (ht : HasKind entry t) (hu : HasKind entry u) :
    t = u := by
  obtain ⟨v, hv, hview⟩ := ht
  obtain ⟨v', hv', hview'⟩ := hu
  obtain rfl : v = v' := Option.some.inj (hv.symm.trans hv')
  exact Shape.str.inj (hview.symm.trans hview')

/-- The kind that was read is the one that the entry says. -/
theorem hasKind_of_parseKind {entry : Value} {place : Text} {kind : Kind}
    (h : parseKind entry place = .ok kind) : ∃ t, HasKind entry t ∧ kind = .ofText t := by
  obtain ⟨v, t, hv, hview, -, hkind⟩ := parseKind_eq_ok_iff.mp h
  exact ⟨t, ⟨v, hv, hview⟩, hkind⟩

theorem eq_helper_iff_of_parseKind {entry : Value} {place : Text} {kind : Kind}
    (h : parseKind entry place = .ok kind) : kind = .helper ↔ HasKind entry "helper" := by
  obtain ⟨t, ht, rfl⟩ := hasKind_of_parseKind h
  rw [ofText_eq_helper_iff]
  exact ⟨fun h => h ▸ ht, fun h => ht.eq h⟩

theorem eq_info_iff_of_parseKind {entry : Value} {place : Text} {kind : Kind}
    (h : parseKind entry place = .ok kind) : kind = .info ↔ HasKind entry "info" := by
  obtain ⟨t, ht, rfl⟩ := hasKind_of_parseKind h
  rw [ofText_eq_info_iff]
  exact ⟨fun h => h ▸ ht, fun h => ht.eq h⟩

section Writable

variable {entry : Value} (hentry : entry.Writable)

include hentry

theorem decides_parseKind (place : Text) :
    Decides (parseKind entry place)
      (HasKind entry "forward" ∨ HasKind entry "helper" ∨ HasKind entry "info") := by
  have read : Decides (parseKind entry place)
      (∃ v, optional entry "kind" = some v ∧ ∃ t ∈ kindNames, v.view = .str t) := by
    refine decides_require_bind place fun v hv => ?_
    have refused : Decides (do reject (.unknownKind (← textOf v) place) : Checked Kind) False :=
      ((decides_textOf (hentry.optional hv)).bind fun _ _ => decides_reject _).congr (by simp)
    cases v.view with
    | str t =>
      dsimp only
      split
      · next ht => exact (decides_ok _).congr (by simpa using ht)
      · next ht => exact (decides_reject _).congr (by simpa using ht)
    | _ => exact refused.congr (by simp)
  refine read.congr ⟨?_, ?_⟩
  · rintro ⟨v, hv, t, ht, hview⟩
    have hkind : HasKind entry t := ⟨v, hv, hview⟩
    rcases mem_kindNames_iff.mp ht with rfl | rfl | rfl
    · exact .inl hkind
    · exact .inr (.inl hkind)
    · exact .inr (.inr hkind)
  · rintro (⟨v, hv, hview⟩ | ⟨v, hv, hview⟩ | ⟨v, hv, hview⟩)
    · exact ⟨v, hv, _, by decide, hview⟩
    · exact ⟨v, hv, _, by decide, hview⟩
    · exact ⟨v, hv, _, by decide, hview⟩

theorem decides_parseHelper (place : Text) :
    Decides (parseHelper entry place)
      (∃ part, optional entry "helper" = some part ∧ IsHelper part) := by
  refine decides_require_bind place fun helper hhelper => ?_
  have hwritable := hentry.optional hhelper
  refine Decides.congr (p := (∃ part, optional helper "name" = some part) ∧
    HasListOrNull helper "check_args" ∧ HasListOrNull helper "install_args" ∧ True) ?_ ?_
  · refine (decides_requireText hwritable _ _).bind fun name _ => ?_
    refine (decides_requireTexts hwritable _ _ _).bind fun checkArgs _ => ?_
    exact (decides_requireTexts hwritable _ _ _).bind fun installArgs _ => decides_ok _
  · constructor
    · rintro ⟨hname, hcheck, hinstall, -⟩
      exact ⟨hname, hcheck, hinstall⟩
    · rintro ⟨hname, hcheck, hinstall⟩
      exact ⟨hname, hcheck, hinstall, trivial⟩

theorem decides_parseTool {kind : Kind} {place : Text}
    (hkind : kind = .helper ↔ HasKind entry "helper") :
    Decides (parseTool kind entry place) (HasKind entry "helper" →
      ∃ part, optional entry "helper" = some part ∧ IsHelper part) := by
  unfold parseTool
  split
  · next h => exact ((decides_parseHelper hentry place).map some).congr (by simp [hkind.mp h])
  · next h => exact (decides_ok none).congr (by simp [mt hkind.mpr h])

/-- An entry is read if it describes an operation; nothing else can be wrong with it. -/
theorem decides_parseEntry {key : Value} (hkey : key.Writable) :
    Decides (parseEntry key entry) (IsOperation entry) := by
  rw [parseEntry_eq]
  -- One condition for each step of the reader, `True` where the step always succeeds.
  refine Decides.congr (p := True ∧
    (HasKind entry "forward" ∨ HasKind entry "helper" ∨ HasKind entry "info") ∧
    (HasKind entry "helper" → ∃ part, optional entry "helper" = some part ∧ IsHelper part) ∧
    (∀ part, optional entry "args" = some part → part.IsListOrNull) ∧
    (¬ HasKind entry "info" → itemsAt entry "args" ≠ []) ∧ True ∧
    (∀ part, optional entry "aliases" = some part → part.IsListOrNull) ∧ True) ?_ ?_
  · refine (decides_textOf hkey).bind fun name _ => ?_
    refine (decides_parseKind hentry _).bind fun kind hkind => ?_
    refine (decides_parseTool hentry (eq_helper_iff_of_parseKind hkind)).bind fun tool _ => ?_
    refine (decides_optionalTexts hentry _ _).bind fun args hargs => ?_
    have hnil : args = [] ↔ itemsAt entry "args" = [] := by
      rw [str_of_mapM_textOf (optionalTexts_eq_ok_iff.mp hargs).2, List.map_eq_nil_iff]
    refine (decides_ite_reject ?_).congr (and_congr_left' ?_)
    · refine (decides_optionalText hentry _ _).bind fun description _ => ?_
      exact (decides_optionalTexts hentry _ _).bind fun aliases _ => decides_ok _
    · rw [Ne, eq_info_iff_of_parseKind hkind, hnil, not_and]
  · constructor
    · rintro ⟨-, hkind, hhelper, hargs, hne, -, haliases, -⟩
      exact ⟨hkind, hhelper, hargs, hne, haliases⟩
    · rintro ⟨hkind, hhelper, hargs, hne, haliases⟩
      exact ⟨trivial, hkind, hhelper, hargs, hne, trivial, haliases, trivial⟩

end Writable

/-! ### Catalogues -/

theorem ReadsAs.names_eq {key value : Value} {e : Entry} (h : ReadsAs key value e) :
    e.names = declaredNames (key, value) := by
  rw [Entry.names, str_of_textOf h.name,
    str_of_mapM_textOf (optionalTexts_eq_ok_iff.mp h.aliases).2]
  rfl

theorem flatMap_names_eq {pairs : List (Value × Value)} {es : List Entry}
    (h : List.Forall₂ (fun pair e => ReadsAs pair.1 pair.2 e) pairs es) :
    es.flatMap Entry.names = pairs.flatMap declaredNames := by
  induction h with
  | nil => rfl
  | cons hread _ ih => rw [List.flatMap_cons, List.flatMap_cons, hread.names_eq, ih]

theorem exists_forall₂_iff {α β : Type} {R : α → β → Prop} {l : List α} :
    (∃ l', List.Forall₂ R l l') ↔ ∀ a ∈ l, ∃ b, R a b := by
  induction l with
  | nil => simp
  | cons a rest ih =>
    simp only [List.forall₂_cons_left_iff, List.forall_mem_cons, ← ih]
    constructor
    · rintro ⟨_, b, l', hb, hl', -⟩
      exact ⟨⟨b, hb⟩, l', hl'⟩
    · rintro ⟨⟨b, hb⟩, l', hl'⟩
      exact ⟨_, b, l', hb, hl', rfl⟩

/-- The entries are read one by one, so the induction is on their list. -/
theorem onlyFaults_addEntries {pairs : List (Value × Value)}
    (hpairs : ∀ pair ∈ pairs, pair.1.Writable ∧ pair.2.Writable) (c : Catalogue) :
    OnlyFaults (addEntries c pairs) := by
  induction pairs generalizing c with
  | nil => exact (decides_ok c).faults
  | cons pair rest ih =>
    obtain ⟨hkey, hentry⟩ := hpairs pair List.mem_cons_self
    refine (decides_parseEntry hentry hkey).faults.bind fun e _ => ?_
    refine (onlyFaults_mapError _).bind fun c' _ => ?_
    exact ih (fun pair' hpair' => hpairs pair' (List.mem_cons_of_mem _ hpair')) c'

theorem decides_addEntries {pairs : List (Value × Value)}
    (hpairs : ∀ pair ∈ pairs, pair.1.Writable ∧ pair.2.Writable) :
    Decides (addEntries .empty pairs)
      ((∀ pair ∈ pairs, IsOperation pair.2) ∧ (pairs.flatMap declaredNames).Nodup) where
  passes := by
    have reads : (∃ es, List.Forall₂ (fun pair e => ReadsAs pair.1 pair.2 e) pairs es) ↔
        ∀ pair ∈ pairs, IsOperation pair.2 := by
      rw [exists_forall₂_iff]
      refine forall₂_congr fun pair hpair => ?_
      rw [← (decides_parseEntry (hpairs pair hpair).2 (hpairs pair hpair).1).passes]
      simp only [parseEntry_eq_ok_iff]
    rw [← reads]
    simp only [addEntries_eq_ok_iff]
    constructor
    · rintro ⟨c, es, hes, hnodup, -, -⟩
      exact ⟨⟨es, hes⟩, flatMap_names_eq hes ▸ hnodup⟩
    · rintro ⟨⟨es, hes⟩, hnodup⟩
      rw [← flatMap_names_eq hes] at hnodup
      exact ⟨⟨es.flatMap Entry.bindings⟩, es, hes, hnodup, by simp, rfl⟩
  faults := onlyFaults_addEntries hpairs _

theorem decides_parseOperations {operations : Value} (h : operations.Writable) :
    Decides (parseOperations operations) (DeclaresOperations operations) := by
  have read : Decides (parseOperations operations)
      (∃ part, optional operations "operations" = some part ∧ ∃ pairs,
        part.view = .mapping pairs ∧ pairs ≠ [] ∧ (∀ pair ∈ pairs, IsOperation pair.2) ∧
          (pairs.flatMap declaredNames).Nodup) := by
    refine decides_require_bind _ fun part hpart => ?_
    cases hview : part.view with
    | mapping pairs =>
      cases pairs with
      | nil => exact (decides_reject _).congr (by simp)
      | cons pair rest =>
        have hpairs : ∀ pair' ∈ pair :: rest, pair'.1.Writable ∧ pair'.2.Writable :=
          fun _ hmem => (h.optional hpart).entry hview hmem
        refine (decides_addEntries hpairs).congr ⟨fun ⟨hops, hnodup⟩ => ?_, ?_⟩
        · exact ⟨_, rfl, List.cons_ne_nil _ _, hops, hnodup⟩
        · rintro ⟨_, heq, -, hops, hnodup⟩
          obtain rfl := Shape.mapping.inj heq
          exact ⟨hops, hnodup⟩
    | _ => exact (decides_reject _).congr (by simp)
  refine read.congr ?_
  simp only [DeclaresOperations, exists_and_left]

/-! ### Libraries -/

theorem exists_optional_of_itemsAt {v : Value} {key : Text} (h : itemsAt v key ≠ []) :
    ∃ part, optional v key = some part ∧ part.IsListOrNull := by
  unfold itemsAt at h
  split at h
  · next part hpart =>
    refine ⟨part, hpart, ?_⟩
    unfold Value.items at h
    split at h
    · next items hview => exact .inr ⟨items, hview⟩
    · exact absurd rfl h
  · exact absurd rfl h

theorem decides_parseLibrary {toolchain : Value} (h : toolchain.Writable) :
    Decides (parseLibrary toolchain) (DeclaresLibrary toolchain) := by
  refine decides_require_bind _ fun library hlibrary => ?_
  have hwritable := h.optional hlibrary
  refine Decides.congr (p := (∃ part, optional library "candidate_dirs" = some part ∧
      part.IsListOrNull) ∧ itemsAt library "candidate_dirs" ≠ [] ∧ True ∧
    (∃ part, optional library "filename" = some part) ∧
    (∃ part, optional library "search_path_var" = some part) ∧
    (∃ part, optional library "override_var" = some part) ∧ True) ?_ ?_
  · refine (decides_requireTexts hwritable _ _ _).bind fun dirs hdirs => ?_
    have hnil : dirs.isEmpty = true ↔ itemsAt library "candidate_dirs" = [] := by
      obtain ⟨part, hpart, -, hitems⟩ := requireTexts_eq_ok_iff.mp hdirs
      rw [List.isEmpty_iff, str_of_mapM_textOf hitems, List.map_eq_nil_iff, itemsAt, hpart]
    refine (decides_ite_reject ?_).congr (and_congr_left' (not_congr hnil))
    refine (decides_optionalText hwritable _ _).bind fun name _ => ?_
    refine (decides_requireText hwritable _ _).bind fun filename _ => ?_
    refine (decides_requireText hwritable _ _).bind fun searchPathVar _ => ?_
    exact (decides_requireText hwritable _ _).bind fun overrideVar _ => decides_ok _
  · constructor
    · rintro ⟨-, hdirs, -, hfile, hsearch, hoverride, -⟩
      exact ⟨hfile, hsearch, hoverride, hdirs⟩
    · rintro ⟨hfile, hsearch, hoverride, hdirs⟩
      exact ⟨exists_optional_of_itemsAt hdirs, hdirs, trivial, hfile, hsearch, hoverride, trivial⟩

theorem decides_check {toolchain operations : Value} (ht : toolchain.Writable)
    (ho : operations.Writable) :
    Decides (check toolchain operations)
      (DeclaresOperations operations ∧ DeclaresLibrary toolchain) := by
  have checked := (decides_parseOperations ho).bind fun catalogue _ =>
    (decides_parseLibrary ht).bind fun library _ =>
      decides_ok (Configuration.mk toolchain catalogue library)
  exact checked.congr (by simp)

end Config

/-! ### Files -/

/-- What a file without content counts as. -/
def Value.orEmpty (v : Value) : Value := if v.isNothing then .emptyMapping else v

/-- A file that is there and whose content, where it has to be read, is well-formed. -/
inductive ConfigFile.Holds : ConfigFile → Value → Prop
  | value (v : Value) : Holds (.value v) v
  | octets {content : Octets} {v : Value} (h : Yaml.valueOf (.ofOctets content) = .ok v) :
    Holds (.octets content) v

theorem ConfigFile.Holds.read_eq {file : ConfigFile} {v : Value} (h : file.Holds v)
    (label path : Text) : file.read label path = .ok v.orEmpty := by
  cases h with
  | value => rfl
  | octets h =>
    rw [read, h]
    rfl

theorem writable_emptyMapping : Value.emptyMapping.Writable := by
  intro u hu hscalar
  rcases hu.cases_head with rfl | ⟨part, hpart, -⟩
  · cases hscalar
  · cases hpart

theorem Value.Writable.orEmpty {v : Value} (hv : v.Writable) : v.orEmpty.Writable := by
  unfold Value.orEmpty
  split
  · exact writable_emptyMapping
  · exact hv

namespace Config

/-- What counts as nothing has no parts anyway. -/
theorem optional_orEmpty (v : Value) (key : Text) : optional v.orEmpty key = optional v key := by
  unfold Value.orEmpty
  split
  · next h =>
    unfold Value.isNothing at h
    unfold optional
    cases hview : v.view with
    | mapping entries =>
      rw [hview] at h
      rw [List.isEmpty_iff.mp h]
      rfl
    | _ => rfl
  · rfl

theorem declaresOperations_orEmpty (v : Value) :
    DeclaresOperations v.orEmpty ↔ DeclaresOperations v := by
  simp only [DeclaresOperations, optional_orEmpty]

theorem declaresLibrary_orEmpty (v : Value) : DeclaresLibrary v.orEmpty ↔ DeclaresLibrary v := by
  simp only [DeclaresLibrary, optional_orEmpty]

end Config

open Config

/-- Two files whose scalars have texts are either loaded or turned down for a fault, and they are
loaded exactly if they declare operations and a library. -/
theorem load_decided {files : ConfigFiles} {toolchain operations : Value}
    (ht : files.toolchain.Holds toolchain) (ho : files.operations.Holds operations)
    (htoolchain : toolchain.Writable) (hoperations : operations.Writable) (directory : Text) :
    ((∃ config, files.load directory = .ok config) ∨
      ∃ fault, files.load directory = .error (.rejected (.fault fault))) ∧
    ((∃ config, files.load directory = .ok config) ↔
      DeclaresOperations operations ∧ DeclaresLibrary toolchain) := by
  have decided := decides_check htoolchain.orEmpty hoperations.orEmpty
  rw [declaresOperations_orEmpty, declaresLibrary_orEmpty] at decided
  have hload : files.load directory =
      (check toolchain.orEmpty operations.orEmpty).mapError .rejected := by
    rw [ConfigFiles.load, ht.read_eq, ho.read_eq]
    rfl
  rw [hload]
  simp only [mapError_eq_ok_iff]
  refine ⟨?_, decided.passes⟩
  cases hcheck : check toolchain.orEmpty operations.orEmpty with
  | ok config => exact .inl ⟨config, rfl⟩
  | error rejection =>
    obtain ⟨fault, rfl⟩ := decided.faults _ hcheck
    exact .inr ⟨fault, rfl⟩

/-- A number and a text that are the same name. -/
def clashing : Value := .ofTree <| .mapping [(.str "operations", .mapping [
  (.int 1, .mapping [(.str "kind", .str "info")]),
  (.str "1", .mapping [(.str "kind", .str "info")])])]

/-- A library that is looked for in one directory. -/
def oneLibrary : Value := .ofTree <| .mapping [(.str "library", .mapping [
  (.str "filename", .str "libz.so"), (.str "candidate_dirs", .list [.str "/usr/lib"]),
  (.str "search_path_var", .str "Z_DIR"), (.str "override_var", .str "Z_BUNDLED")])]

theorem load_clashing : clashing.Writable ∧ oneLibrary.Writable ∧
    ∃ fault, (ConfigFiles.mk (.value oneLibrary) (.value clashing)).load "etc" =
      .error (.rejected (.fault fault)) := by
  have hclashing : clashing.Writable := Value.writable_of_heap rfl
  have hlibrary : oneLibrary.Writable := Value.writable_of_heap rfl
  refine ⟨hclashing, hlibrary, ?_⟩
  have decided := @load_decided ⟨.value oneLibrary, .value clashing⟩ _ _ (.value _) (.value _)
    hlibrary hclashing "etc"
  refine decided.1.resolve_left ?_
  rintro ⟨config, h⟩
  cases h

end BuildDispatch
