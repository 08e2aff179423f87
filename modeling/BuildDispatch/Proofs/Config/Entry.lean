import Mathlib.Data.List.Forall2
import BuildDispatch.Config.Load
import BuildDispatch.Operation
import BuildDispatch.Proofs.Catalogue
import BuildDispatch.Proofs.Config.Fields

/-!
# Entries of a configuration

What an entry is read as, field by field, and what a catalogue of such entries looks like: every
name leads to an entry that can be made ready.

## Main statements

* `parseEntry_eq_ok_iff`: the fields of an entry that is read.
* `addEntries_eq_ok_iff`: the catalogue lists the entries in the order of the file.
* `ConfigFiles.ready_of_load`: what holds of the catalogue of every loaded configuration.
-/

namespace BuildDispatch

/-- The entry has what its kind needs. -/
structure Entry.Coherent (e : Entry) : Prop where
  kind_known : ∀ name, e.kind ≠ .unknown name
  helper_iff : e.helper.isSome ↔ e.kind = .helper
  args_ne_nil : e.kind ≠ .info → e.args ≠ []

/-- Such an entry can always be made ready, as what its kind says. -/
theorem Entry.Coherent.ofEntry_eq_ok {e : Entry} (h : e.Coherent) :
    ∃ o, Operation.ofEntry e = .ok o := by
  unfold Operation.ofEntry
  cases hk : e.kind with
  | forward => exact ⟨_, rfl⟩
  | info => exact ⟨_, rfl⟩
  | unknown name => exact absurd hk (h.kind_known name)
  | helper =>
    obtain ⟨tool, htool⟩ := Option.isSome_iff_exists.mp (h.helper_iff.mpr hk)
    rw [htool]
    exact ⟨_, rfl⟩

theorem Operation.entry_of_ofEntry {e : Entry} {o : Operation}
    (h : Operation.ofEntry e = .ok o) : o.entry = e := by
  unfold Operation.ofEntry at h
  split at h
  · rw [← Except.ok.inj h]; rfl
  · split at h
    · rw [← Except.ok.inj h]; rfl
    · cases h
  · rw [← Except.ok.inj h]; rfl
  · cases h

namespace Config

open Text

/-- How messages name an entry. -/
def placeOf (name : Text) : Text := "operation '" ++ name ++ "'"

/-- The helper tool, which only helper operations have. -/
def parseTool (kind : Kind) (entry : Value) (place : Text) : Checked (Option HelperTool) :=
  if kind = .helper then (parseHelper entry place).map some else .ok none

/-- The value at `key` is read as the entry `e`. -/
structure ReadsAs (key value : Value) (e : Entry) : Prop where
  name : textOf key = .ok e.name
  kind : parseKind value (placeOf e.name) = .ok e.kind
  helper : parseTool e.kind value (placeOf e.name) = .ok e.helper
  args : optionalTexts value "args" (placeOf e.name ++ " args") = .ok e.args
  args_ne_nil : ¬ (e.kind ≠ .info ∧ e.args = [])
  description : optionalText value "description" "" = .ok e.description
  aliases : optionalTexts value "aliases" (placeOf e.name ++ " aliases") = .ok e.aliases
  usesBuildEnv : e.usesBuildEnv =
    ((optional value "uses_build_env").map fun v => !v.isNothing).getD false
  channel : e.channel = (optional value "channel").getD .null
  outputFilter : e.outputFilter = (optional value "output_filter").getD .null

theorem parseEntry_eq (key value : Value) :
    parseEntry key value = (do
      let name ← textOf key
      let kind ← parseKind value (placeOf name)
      let helper ← parseTool kind value (placeOf name)
      let args ← optionalTexts value "args" (placeOf name ++ " args")
      if kind ≠ .info ∧ args = [] then reject (.noArguments (placeOf name))
      else
        let description ← optionalText value "description" ""
        let aliases ← optionalTexts value "aliases" (placeOf name ++ " aliases")
        .ok
          { name
            kind
            description
            args
            usesBuildEnv := ((optional value "uses_build_env").map fun v => !v.isNothing).getD false
            channel := (optional value "channel").getD .null
            outputFilter := (optional value "output_filter").getD .null
            aliases
            helper }) := by
  unfold parseEntry parseTool placeOf
  congr 1
  funext name
  dsimp only
  congr 1
  funext kind
  -- The reader goes on in both branches of its check for a helper.
  by_cases h : kind = .helper
  · simp only [if_pos h]
  · simp only [if_neg h]

theorem parseEntry_eq_ok_iff {key value : Value} {e : Entry} :
    parseEntry key value = .ok e ↔ ReadsAs key value e := by
  rw [parseEntry_eq]
  simp only [bind_eq_ok_iff, ite_reject_eq_ok_iff]
  constructor
  · rintro ⟨name, hname, kind, hkind, helper, hhelper, args, hargs, hne, description, hd, aliases,
      ha, he⟩
    obtain rfl := Except.ok.inj he
    exact ⟨hname, hkind, hhelper, hargs, hne, hd, ha, rfl, rfl, rfl⟩
  · intro h
    refine ⟨_, h.name, _, h.kind, _, h.helper, _, h.args, h.args_ne_nil, _, h.description, _,
      h.aliases, ?_⟩
    rw [← h.usesBuildEnv, ← h.channel, ← h.outputFilter]

/-! ### Kinds -/

theorem parseKind_eq_ok_iff {value : Value} {place : Text} {kind : Kind} :
    parseKind value place = .ok kind ↔
      ∃ v t, optional value "kind" = some v ∧ v.view = .str t ∧ t ∈ kindNames ∧
        kind = .ofText t := by
  simp only [parseKind, bind_eq_ok_iff, require_eq_ok_iff]
  constructor
  · rintro ⟨v, hv, h⟩
    split at h
    · next t ht =>
      by_cases hk : kindNames.contains t = true
      · rw [if_pos hk] at h
        exact ⟨v, t, hv, ht, List.contains_iff_mem.mp hk, (Except.ok.inj h).symm⟩
      · rw [if_neg hk] at h
        cases h
    · obtain ⟨_, _, h⟩ := bind_eq_ok_iff.mp h
      cases h
  · rintro ⟨v, t, hv, ht, hk, rfl⟩
    refine ⟨v, hv, ?_⟩
    rw [ht]
    exact if_pos (List.contains_iff_mem.mpr hk)

/-- The names of kinds are those of the known kinds, one of each. -/
theorem mem_kindNames_iff {t : Text} :
    t ∈ kindNames ↔ t = "forward" ∨ t = "helper" ∨ t = "info" := by
  simp [kindNames]

theorem ofText_ne_unknown {t : Text} (h : t ∈ kindNames) (name : Text) :
    Kind.ofText t ≠ .unknown name := by
  rcases mem_kindNames_iff.mp h with rfl | rfl | rfl <;> nofun

theorem ofText_eq_helper_iff {t : Text} : Kind.ofText t = .helper ↔ t = "helper" := by
  unfold Kind.ofText
  split_ifs with hf hh hi
  · subst hf
    decide
  · simp [hh]
  · subst hi
    decide
  · simp [hh]

theorem ofText_eq_info_iff {t : Text} : Kind.ofText t = .info ↔ t = "info" := by
  unfold Kind.ofText
  split_ifs with hf hh hi
  · subst hf
    decide
  · subst hh
    decide
  · simp [hi]
  · simp [hi]

theorem ReadsAs.coherent {key value : Value} {e : Entry} (h : ReadsAs key value e) :
    e.Coherent where
  kind_known name := by
    obtain ⟨v, t, -, -, ht, hk⟩ := parseKind_eq_ok_iff.mp h.kind
    exact hk ▸ ofText_ne_unknown ht name
  helper_iff := by
    have htool := h.helper
    unfold parseTool at htool
    by_cases hk : e.kind = .helper
    · rw [if_pos hk] at htool
      cases hp : parseHelper value (placeOf e.name) with
      | error r => simp [hp, Except.map] at htool
      | ok tool =>
        rw [hp] at htool
        rw [← Except.ok.inj htool]
        simp [hk]
    · rw [if_neg hk] at htool
      rw [← Except.ok.inj htool]
      simp [hk]
  args_ne_nil hk hargs := h.args_ne_nil ⟨hk, hargs⟩

/-! ### Catalogues -/

/-- An entry that was read comes from one of the pairs. -/
theorem coherent_of_mem {pairs : List (Value × Value)} {es : List Entry}
    (h : List.Forall₂ (fun pair e => ReadsAs pair.1 pair.2 e) pairs es) {e : Entry}
    (he : e ∈ es) : e.Coherent := by
  obtain ⟨i, hi, rfl⟩ := List.getElem_of_mem he
  have hread := h.get (h.length_eq ▸ hi) hi
  exact hread.coherent

/-- Entries are read in the order of the file, and their names must all be different. -/
theorem addEntries_eq_ok_iff {c c' : Catalogue} {pairs : List (Value × Value)} :
    addEntries c pairs = .ok c' ↔
      ∃ es, List.Forall₂ (fun pair e => ReadsAs pair.1 pair.2 e) pairs es ∧
        (es.flatMap Entry.names).Nodup ∧ (∀ name ∈ es.flatMap Entry.names, name ∉ c.keys) ∧
        c'.toList = c.toList ++ es.flatMap Entry.bindings := by
  induction pairs generalizing c with
  | nil =>
    obtain ⟨entries⟩ := c
    obtain ⟨entries'⟩ := c'
    simp [addEntries, eq_comm]
  | cons pair rest ih =>
    obtain ⟨key, value⟩ := pair
    simp only [addEntries, bind_eq_ok_iff, mapError_eq_ok_iff, parseEntry_eq_ok_iff, ih,
      List.forall₂_cons_left_iff]
    constructor
    · rintro ⟨e, he, c₁, hadd, es, hes, hnodup, hfresh, hlist⟩
      obtain ⟨hn, hnew, hadded⟩ := (Catalogue.addNew_eq_ok_iff c c₁ e).mp hadd
      rw [Catalogue.keys_of_addNew hadd] at hfresh
      refine ⟨e :: es, ⟨e, es, he, hes, rfl⟩, ?_, ?_, ?_⟩
      · rw [List.flatMap_cons, List.nodup_append]
        refine ⟨hn, hnodup, ?_⟩
        rintro name hname _ hother rfl
        exact hfresh name hother (List.mem_append_right _ hname)
      · intro name hname
        rw [List.flatMap_cons, List.mem_append] at hname
        rcases hname with hname | hname
        · exact hnew name hname
        · exact fun hc => hfresh name hname (List.mem_append_left _ hc)
      · rw [hlist, hadded, List.flatMap_cons, List.append_assoc]
    · rintro ⟨_, ⟨e, es, he, hes, rfl⟩, hnodup, hfresh, hlist⟩
      rw [List.flatMap_cons, List.nodup_append] at hnodup
      rw [List.flatMap_cons] at hfresh hlist
      obtain ⟨hn, hnodup, hapart⟩ := hnodup
      have hadd : c.addNew e = .ok ⟨c.toList ++ e.bindings⟩ :=
        (Catalogue.addNew_eq_ok_iff c _ e).mpr
          ⟨hn, fun name hname => hfresh name (List.mem_append_left _ hname), rfl⟩
      refine ⟨e, he, _, hadd, es, hes, hnodup, ?_, ?_⟩
      · intro name hname hc
        rw [Catalogue.keys_of_addNew hadd] at hc
        rcases List.mem_append.mp hc with hc | hc
        · exact hfresh name (List.mem_append_right _ hname) hc
        · exact hapart name hc name hname rfl
      · rw [hlist, List.append_assoc]

/-- The value of the operations file declares the entries `es`. -/
theorem parseOperations_eq_ok_iff {operations : Value} {c : Catalogue} :
    parseOperations operations = .ok c ↔
      ∃ part pairs es, optional operations "operations" = some part ∧
        part.view = .mapping pairs ∧ pairs ≠ [] ∧
        List.Forall₂ (fun pair e => ReadsAs pair.1 pair.2 e) pairs es ∧ c.Lists es := by
  simp only [parseOperations, bind_eq_ok_iff, require_eq_ok_iff]
  constructor
  · rintro ⟨part, hpart, h⟩
    split at h
    · cases h
    · next pairs hne hview =>
      obtain ⟨es, hes, hnodup, -, hlist⟩ := addEntries_eq_ok_iff.mp h
      exact ⟨part, pairs, es, hpart, hview, hne, hes, hlist, hnodup⟩
    · cases h
  · rintro ⟨part, pairs, es, hpart, hview, hne, hes, hlists⟩
    refine ⟨part, hpart, ?_⟩
    rw [hview]
    cases pairs with
    | nil => exact absurd rfl hne
    | cons pair rest =>
      exact addEntries_eq_ok_iff.mpr ⟨es, hes, hlists.nodup, by simp, hlists.toList_eq⟩

theorem check_eq_ok_iff {toolchain operations : Value} {config : Configuration} :
    check toolchain operations = .ok config ↔
      parseOperations operations = .ok config.catalogue ∧
        parseLibrary toolchain = .ok config.library ∧ config.toolchain = toolchain := by
  simp only [check, bind_eq_ok_iff]
  constructor
  · rintro ⟨catalogue, hc, library, hl, h⟩
    obtain rfl := Except.ok.inj h
    exact ⟨hc, hl, rfl⟩
  · rintro ⟨hc, hl, rfl⟩
    exact ⟨_, hc, _, hl, rfl⟩

end Config

/-! ### Loaded configurations -/

/-- The catalogue lists entries that have what their kinds need. -/
def Catalogue.Ready (c : Catalogue) : Prop := ∃ es, c.Lists es ∧ ∀ e ∈ es, e.Coherent

section Ready

variable {c : Catalogue} {name : Text} {e : Entry}

theorem Catalogue.Ready.coherent (h : c.Ready) (he : c.find? name = some e) : e.Coherent := by
  obtain ⟨es, hes, hcoherent⟩ := h
  exact hcoherent e (hes.find?_eq_some_iff.mp he).1

theorem Catalogue.Ready.find?_name (h : c.Ready) (he : c.find? name = some e) :
    c.find? e.name = some e := by
  obtain ⟨es, hes, -⟩ := h
  exact hes.find?_name he

end Ready

namespace ConfigFiles

theorem load_eq_ok_iff {files : ConfigFiles} {directory : Text} {config : Configuration} :
    files.load directory = .ok config ↔ ∃ toolchain operations,
      files.toolchain.read "Toolchain" (Path.joinText directory "toolchain.yaml") =
        .ok toolchain ∧
      files.operations.read "Operations" (Path.joinText directory "operations.yaml") =
        .ok operations ∧
      Config.check toolchain operations = .ok config := by
  simp only [load, bind_eq_ok_iff, mapError_eq_ok_iff]
  constructor
  · rintro ⟨t, ht, o, ho, h⟩
    exact ⟨t, o, ht, ho, h⟩
  · rintro ⟨t, o, ht, ho, h⟩
    exact ⟨t, ht, o, ho, h⟩

theorem ready_of_load {files : ConfigFiles} {directory : Text} {config : Configuration}
    (h : files.load directory = .ok config) : config.catalogue.Ready := by
  obtain ⟨toolchain, operations, -, -, hcheck⟩ := load_eq_ok_iff.mp h
  obtain ⟨-, pairs, es, -, -, -, hes, hlists⟩ :=
    Config.parseOperations_eq_ok_iff.mp (Config.check_eq_ok_iff.mp hcheck).1
  exact ⟨es, hlists, fun e he => Config.coherent_of_mem hes he⟩

/-- A build and an audit, the latter with a tool of its own. -/
def small : ConfigFiles where
  toolchain := .value <| .ofTree <| .mapping [(.str "library", .mapping [
    (.str "filename", .str "libz.so"),
    (.str "candidate_dirs", .list [.str "/usr/lib", .str "/opt/lib"]),
    (.str "search_path_var", .str "Z_DIR"),
    (.str "override_var", .str "Z_BUNDLED")]),
    (.str "toolchain", .mapping [(.str "program", .str "cargo")])]
  operations := .value <| .ofTree <| .mapping [(.str "operations", .mapping [
    (.str "build", .mapping [
      (.str "kind", .str "forward"),
      (.str "args", .list [.str "build"]),
      (.str "aliases", .list [.str "b"]),
      (.str "uses_build_env", .bool true)]),
    (.str "audit", .mapping [
      (.str "kind", .str "helper"),
      (.str "args", .list [.str "audit"]),
      (.str "channel", .str "nightly"),
      (.str "helper", .mapping [
        (.str "name", .str "cargo-audit"),
        (.str "check_args", .list [.str "audit", .str "--version"]),
        (.str "install_args", .list [.str "install", .str "cargo-audit"])])])])]

/-- The same with one entry in place of the two. -/
def withEntry (name : Text) (fields : List (Tree × Tree)) : ConfigFiles :=
  { small with
    operations := .value <| .ofTree <| .mapping [
      (.str "operations", .mapping [(.str name, .mapping fields)])] }

end ConfigFiles
end BuildDispatch
