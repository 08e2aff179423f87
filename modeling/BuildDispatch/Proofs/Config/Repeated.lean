import Mathlib.Data.List.Find
import BuildDispatch.Proofs.Config.Acceptance
import BuildDispatch.Proofs.Yaml.Account

/-!
# Names that are written twice

The names of operations must be different, and the first that is not is reported. But they are the
names of what the file has been read as, and a mapping has one entry for each key. So two entries
whose keys only read alike are found out, while of two entries under one key the first is lost
before names are looked at.

## Main definitions

* `FirstRepeat`: the name that is reported.

## Main statements

* `load_decided_by_names`: a file of readable entries is loaded unless a name is repeated.
* `repeatedName_decided`: what becomes of two entries whose keys read alike.
* `twiceWritten_loaded`: a file that is loaded without one of its entries.
-/

namespace BuildDispatch

open Config

/-! ### The first repeated name -/

/-- The first name of a list that stood in it before. -/
def FirstRepeat (names : List Text) (name : Text) : Prop :=
  ∃ front back, names = front ++ name :: back ∧ front.Nodup ∧ name ∈ front

namespace FirstRepeat

variable {names : List Text} {name : Text}

theorem append (h : FirstRepeat names name) (others : List Text) :
    FirstRepeat (names ++ others) name := by
  obtain ⟨front, back, rfl, hnodup, hmem⟩ := h
  exact ⟨front, back ++ others, by simp, hnodup, hmem⟩

theorem not_nodup (h : FirstRepeat names name) : ¬ names.Nodup := by
  obtain ⟨front, back, rfl, -, hmem⟩ := h
  intro hnodup
  exact (List.nodup_append.mp hnodup).2.2 name hmem name List.mem_cons_self rfl

end FirstRepeat

/-- The induction is on the names, which are put into the catalogue one by one. -/
theorem Catalogue.foldlM_insert_decided (e : Entry) (names : List Text) {c : Catalogue}
    (hc : c.keys.Nodup) :
    let added : Except ConfigFault Catalogue := names.foldlM (fun c name =>
      if c.contains name then .error (.duplicateName name) else .ok (c.insert name e)) c
    (∃ c', added = .ok c') ∨
      ∃ name, FirstRepeat (c.keys ++ names) name ∧ added = .error (.duplicateName name) := by
  induction names generalizing c with
  | nil => exact .inl ⟨c, rfl⟩
  | cons name rest ih =>
    rw [List.foldlM_cons]
    by_cases hname : name ∈ c.keys
    · rw [if_pos ((Bindings.contains_iff_mem_keys c name).mpr hname)]
      exact .inr ⟨name, ⟨c.keys, rest, rfl, hc, hname⟩, rfl⟩
    · rw [if_neg fun h => hname ((Bindings.contains_iff_mem_keys c name).mp h)]
      have hkeys : (c.insert name e).keys = c.keys ++ [name] := by
        rw [Bindings.keys_insert, if_neg hname]
      have hnodup : (c.insert name e).keys.Nodup := by
        rw [hkeys, ← List.concat_eq_append]
        exact hc.concat hname
      have hadded := ih hnodup
      rw [hkeys, List.append_assoc, List.singleton_append] at hadded
      exact hadded

namespace Config

/-! ### Checks that look at no names -/

section NoRepeat

variable {α β : Type}

/-- The check finds no repeated name. -/
def NoRepeat (x : Checked α) : Prop := ∀ repeated, x ≠ .error (.fault (.duplicateName repeated))

theorem noRepeat_ok (a : α) : NoRepeat (.ok a) := fun _ => nofun

theorem NoRepeat.bind {x : Checked α} {f : α → Checked β} (hx : NoRepeat x)
    (hf : ∀ a, NoRepeat (f a)) : NoRepeat (x >>= f) := by
  intro repeated h
  cases x with
  | error rejection => exact hx repeated (congrArg _ (Except.error.inj h))
  | ok a => exact hf a repeated h

theorem noRepeat_textOf (v : Value) : NoRepeat (textOf v) := by
  unfold textOf
  cases v.text with
  | ok t => exact noRepeat_ok t
  | error cause => exact fun _ => nofun

theorem noRepeat_mapM_textOf (vs : List Value) : NoRepeat (vs.mapM textOf) := by
  induction vs with
  | nil => exact noRepeat_ok []
  | cons v rest ih =>
    rw [List.mapM_cons]
    exact (noRepeat_textOf v).bind fun t => ih.bind fun ts => noRepeat_ok (t :: ts)

theorem noRepeat_require (v : Value) (key place : Text) : NoRepeat (require v key place) := by
  unfold require
  cases optional v key with
  | some part => exact noRepeat_ok part
  | none => exact fun _ => nofun

theorem noRepeat_texts (v : Value) (place : Text) : NoRepeat (texts v place) := by
  unfold texts
  cases v.view with
  | null => exact noRepeat_ok []
  | list items => exact noRepeat_mapM_textOf items
  | _ => exact fun _ => nofun

theorem noRepeat_requireText (v : Value) (key place : Text) :
    NoRepeat (requireText v key place) :=
  (noRepeat_require v key place).bind noRepeat_textOf

theorem noRepeat_requireTexts (v : Value) (key place listPlace : Text) :
    NoRepeat (requireTexts v key place listPlace) :=
  (noRepeat_require v key place).bind fun part => noRepeat_texts part listPlace

theorem noRepeat_optionalText (v : Value) (key default : Text) :
    NoRepeat (optionalText v key default) := by
  unfold optionalText
  cases optional v key with
  | some part => exact noRepeat_textOf part
  | none => exact noRepeat_ok default

theorem noRepeat_parseLibrary (toolchain : Value) : NoRepeat (parseLibrary toolchain) := by
  refine (noRepeat_require toolchain _ _).bind fun library => ?_
  refine (noRepeat_requireTexts library _ _ _).bind fun candidates => ?_
  split
  · exact fun _ => nofun
  · refine (noRepeat_optionalText library _ _).bind fun name => ?_
    refine (noRepeat_requireText library _ _).bind fun filename => ?_
    refine (noRepeat_requireText library _ _).bind fun searchPathVar => ?_
    exact (noRepeat_requireText library _ _).bind fun overrideVar => noRepeat_ok _

end NoRepeat

/-! ### Entries and their names -/

/-- Readable entries are added, unless a name is repeated. The induction is on the entries. -/
theorem addEntries_decided {pairs : List (Value × Value)}
    (hread : ∀ pair ∈ pairs, ∃ e, ReadsAs pair.1 pair.2 e) {c : Catalogue} (hc : c.keys.Nodup) :
    (∃ c', addEntries c pairs = .ok c') ∨
      ∃ name, FirstRepeat (c.keys ++ pairs.flatMap declaredNames) name ∧
        addEntries c pairs = .error (.fault (.duplicateName name)) := by
  induction pairs generalizing c with
  | nil => exact .inl ⟨c, rfl⟩
  | cons pair rest ih =>
    obtain ⟨⟨e, he⟩, hrest⟩ := List.forall_mem_cons.mp hread
    have hstep : addEntries c (pair :: rest) =
        ((c.addNew e).mapError .fault >>= fun c' => addEntries c' rest) := by
      rw [addEntries, parseEntry_eq_ok_iff.mpr he]
      rfl
    rw [hstep, List.flatMap_cons, ← he.names_eq, ← List.append_assoc]
    rcases Catalogue.foldlM_insert_decided e e.names hc with ⟨c', hadd⟩ | ⟨name, hrepeat, hadd⟩
    · change c.addNew e = _ at hadd
      have hkeys := Catalogue.keys_of_addNew hadd
      obtain ⟨hnames, hnew, -⟩ := (Catalogue.addNew_eq_ok_iff c c' e).mp hadd
      have hnodup : c'.keys.Nodup := by
        rw [hkeys, List.nodup_append]
        exact ⟨hc, hnames, fun name hname other hother heq => hnew other hother (heq ▸ hname)⟩
      rw [hadd, ← hkeys]
      exact ih hrest hnodup
    · change c.addNew e = _ at hadd
      rw [hadd]
      exact .inr ⟨name, hrepeat.append _, rfl⟩

end Config

section Load

variable {files : ConfigFiles} {toolchain operations part : Value}
  {pairs : List (Value × Value)}

/-- A file of readable entries is loaded unless a name is repeated, and then the first such name is
reported. -/
theorem load_decided_by_names (ht : files.toolchain.Holds toolchain)
    (ho : files.operations.Holds operations) (hpart : optional operations "operations" = some part)
    (hview : part.view = .mapping pairs) (hne : pairs ≠ [])
    (hread : ∀ pair ∈ pairs, ∃ e, ReadsAs pair.1 pair.2 e) (directory : Text) :
    (¬ (pairs.flatMap declaredNames).Nodup → ∃ name,
      FirstRepeat (pairs.flatMap declaredNames) name ∧
        files.load directory = .error (.rejected (.fault (.duplicateName name)))) ∧
    ((pairs.flatMap declaredNames).Nodup → ∀ library, parseLibrary toolchain = .ok library →
      ∃ config es, files.load directory = .ok config ∧
        List.Forall₂ (fun pair e => ReadsAs pair.1 pair.2 e) pairs es ∧
        config.catalogue.Lists es) ∧
    ((pairs.flatMap declaredNames).Nodup → ∀ rejection,
      parseLibrary toolchain = .error rejection →
        files.load directory = .error (.rejected rejection) ∧
          ∀ repeated, rejection ≠ .fault (.duplicateName repeated)) := by
  have hload : files.load directory =
      (check toolchain.orEmpty operations.orEmpty).mapError .rejected := by
    rw [ConfigFiles.load, ht.read_eq, ho.read_eq]
    rfl
  have hparse : parseOperations operations.orEmpty = addEntries .empty pairs := by
    rw [parseOperations, require, optional_orEmpty, hpart]
    dsimp only [bind, Except.bind]
    rw [hview]
    cases pairs with
    | nil => exact absurd rfl hne
    | cons pair rest => rfl
  have hlibrary : parseLibrary toolchain.orEmpty = parseLibrary toolchain := by
    simp only [parseLibrary, require, optional_orEmpty]
  refine ⟨fun hnames => ?_, fun hnames library hok => ?_, fun hnames rejection herror => ⟨?_, ?_⟩⟩
  · rcases addEntries_decided hread (c := .empty) .nil with ⟨c, hc⟩ | ⟨name, hrepeat, herror⟩
    · obtain ⟨es, hes, hnodup, -⟩ := addEntries_eq_ok_iff.mp hc
      exact absurd (flatMap_names_eq hes ▸ hnodup) hnames
    · refine ⟨name, hrepeat, ?_⟩
      rw [hload, check, hparse, herror]
      rfl
  · rcases addEntries_decided hread (c := .empty) .nil with ⟨c, hc⟩ | ⟨name, hrepeat, -⟩
    · obtain ⟨es, hes, hnodup, -, hlist⟩ := addEntries_eq_ok_iff.mp hc
      refine ⟨⟨toolchain.orEmpty, c, library⟩, es, ?_, hes, hlist, hnodup⟩
      rw [hload, mapError_eq_ok_iff, check_eq_ok_iff]
      exact ⟨hparse.trans hc, hlibrary.trans hok, rfl⟩
    · exact absurd hnames hrepeat.not_nodup
  · rcases addEntries_decided hread (c := .empty) .nil with ⟨c, hc⟩ | ⟨name, hrepeat, -⟩
    · rw [hload, check, hparse, hc, hlibrary, herror]
      rfl
    · exact absurd hnames hrepeat.not_nodup
  · rintro repeated rfl
    exact noRepeat_parseLibrary toolchain repeated herror

end Load

/-! ### Two entries whose keys read alike -/

section Repeated

variable {files : ConfigFiles} {content : Octets} {toolchain part k₁ k₂ : Value} {name : Text}
  {m : Yaml.NodeId} {before between after : List (Yaml.NodeId × Yaml.NodeId)}
  {first second : Yaml.NodeId × Yaml.NodeId}

theorem name_mem_declaredNames {pair : Value × Value} (h : textOf pair.1 = .ok name) :
    name ∈ declaredNames pair := by
  rw [declaredNames, ← str_of_textOf h]
  exact List.mem_cons_self

/-- What becomes of two entries of the mapping `m` of operations whose keys read as one name. Each
key leads to an entry of what the mapping is read as. If they are one key, it is the same entry,
with a value that was written with the second or later. If they are not, it is two entries, and if
both have kept a key that reads as the name, a name is repeated. All else is decided by the names
that are left, as long as the entries that are left can be read: a repeated name is reported, and
only without one is the library looked at. -/
theorem repeatedName_decided (a : Yaml.Account (.ofOctets content))
    (htoolchain : files.toolchain.Holds toolchain)
    (hoperations : files.operations = .octets content)
    (hpart : optional a.value "operations" = some part) (hm : a.valueAt? m = some part)
    (hmap : a.graph.tag m = .map)
    (hwritten : a.graph.own m = before ++ first :: between ++ second :: after)
    (hk₁ : a.valueAt? first.1 = some k₁) (hk₂ : a.valueAt? second.1 = some k₂)
    (hn₁ : textOf k₁ = .ok name) (hn₂ : textOf k₂ = .ok name) (directory : Text) :
    ∃ pairs kept₁ kept₂, part.view = .mapping pairs ∧
      pairs.find? (fun pair => pair.1.sameKey k₁) = some kept₁ ∧
      pairs.find? (fun pair => pair.1.sameKey k₂) = some kept₂ ∧
      (k₁.sameKey k₂ → kept₁ = kept₂ ∧
        ∃ last ∈ second :: after, a.valueAt? last.2 = some kept₁.2) ∧
      (¬ k₁.sameKey k₂ → textOf kept₁.1 = .ok name → textOf kept₂.1 = .ok name →
        ¬ (pairs.flatMap declaredNames).Nodup) ∧
      ((∀ pair ∈ pairs, ∃ e, ReadsAs pair.1 pair.2 e) →
        (¬ (pairs.flatMap declaredNames).Nodup → ∃ repeated,
          FirstRepeat (pairs.flatMap declaredNames) repeated ∧
            files.load directory = .error (.rejected (.fault (.duplicateName repeated)))) ∧
        ((pairs.flatMap declaredNames).Nodup → ∀ library, parseLibrary toolchain = .ok library →
          ∃ config es, files.load directory = .ok config ∧
            List.Forall₂ (fun pair e => ReadsAs pair.1 pair.2 e) pairs es ∧
            config.catalogue.Lists es) ∧
        ((pairs.flatMap declaredNames).Nodup → ∀ rejection,
          parseLibrary toolchain = .error rejection →
            files.load directory = .error (.rejected rejection) ∧
              ∀ repeated, rejection ≠ .fault (.duplicateName repeated))) := by
  obtain ⟨pairs, hview⟩ := Yaml.Account.exists_view hm hmap
  obtain ⟨kept₁, hkept₁, -⟩ := Yaml.Account.find?_written hm hmap hview
    (hwritten.trans (List.append_assoc _ _ _)) hk₁
  obtain ⟨kept₂, hkept₂, hvalue⟩ := Yaml.Account.find?_written hm hmap hview hwritten hk₂
  have hmem₁ := List.mem_of_find?_eq_some hkept₁
  have hmem₂ := List.mem_of_find?_eq_some hkept₂
  have hheap₁ : k₁.heap = part.heap := Yaml.Account.heap_eq hk₁ hm
  have hheap₂ : k₂.heap = part.heap := Yaml.Account.heap_eq hk₂ hm
  have hheap : ∀ pair ∈ pairs, pair.1.heap = part.heap :=
    fun pair hpair => (Value.heap_eq_of_entry hview hpair).1
  have htext₁ := textOf_eq_ok_iff.mp hn₁
  have htext₂ := textOf_eq_ok_iff.mp hn₂
  have hholds : files.operations.Holds a.value := by
    rw [hoperations]
    exact .octets a.valueOf_eq
  refine ⟨pairs, kept₁, kept₂, hview, hkept₁, hkept₂, ?_, ?_, ?_⟩
  · intro hsame
    have hfind : pairs.find? (fun pair => pair.1.sameKey k₁) =
        pairs.find? (fun pair => pair.1.sameKey k₂) :=
      List.find?_congr fun pair hpair => Value.sameKey_congr ((hheap pair hpair).trans hheap₁.symm)
        (hheap₂.trans hheap₁.symm) hsame (htext₁.trans htext₂.symm)
    obtain rfl : kept₁ = kept₂ := Option.some.inj (hkept₁.symm.trans (hfind.trans hkept₂))
    exact ⟨rfl, hvalue⟩
  · intro hother hkeeps₁ hkeeps₂ hnodup
    obtain rfl := eq_of_nodup_flatMap hnodup hmem₁ hmem₂ (name_mem_declaredNames hkeeps₁)
      (name_mem_declaredNames hkeeps₂)
    have hkept := hheap kept₁ hmem₁
    have hsame := List.find?_some hkept₁
    have hcongr := Value.sameKey_congr (hheap₂.trans hkept.symm) (hheap₁.trans hkept.symm) hsame
      ((textOf_eq_ok_iff.mp hkeeps₁).trans htext₁.symm)
    rw [Value.sameKey_comm (hheap₂.trans hkept.symm), List.find?_some hkept₂,
      Value.sameKey_comm (hheap₂.trans hheap₁.symm)] at hcongr
    exact hother hcongr.symm
  · intro hread
    exact load_decided_by_names htoolchain hholds hpart hview (List.ne_nil_of_mem hmem₁) hread
      directory

end Repeated

/-- One key is written twice, the second time with a description. -/
def twiceWritten : Octets :=
  "operations:\n  a: {kind: info}\n  a: {kind: info, description: x}\n".toUTF8.toList

def twiceAccount : Yaml.Account (.ofOctets twiceWritten) :=
  (Yaml.Account.of? _).get (by decide +kernel)

def twiceFiles : ConfigFiles := ⟨.value oneLibrary, .octets twiceWritten⟩

/-- The key leads to what was written with it last. -/
theorem twiceWritten_keeps_last : ∃ part pairs kept,
    optional twiceAccount.value "operations" = some part ∧ part.view = .mapping pairs ∧
      pairs.find? (fun pair => pair.1.sameKey ⟨twiceAccount.built.heap, 4⟩) = some kept ∧
      twiceAccount.valueAt? 8 = some kept.2 := by
  have htoolchain : twiceFiles.toolchain.Holds oneLibrary := .value oneLibrary
  have hplace : (optional twiceAccount.value "operations").map Value.place = some 3 := by
    decide +kernel
  obtain ⟨part, hpart, hplace⟩ := Option.map_eq_some_iff.mp hplace
  have hheap := Value.heap_eq_of_reaches (.single (Value.hasPart_of_optional hpart))
  have hplaces : twiceAccount.built.placeOf? 2 = some 3 ∧
      twiceAccount.built.placeOf? 3 = some 4 ∧ twiceAccount.built.placeOf? 7 = some 6 := by
    decide +kernel
  have hgraph : twiceAccount.graph.tag 2 = .map ∧
      twiceAccount.graph.own 2 = [] ++ (3, 4) :: [] ++ (7, 8) :: [] := by
    decide +kernel
  have hkeys : (Value.mk twiceAccount.built.heap 4).sameKey ⟨twiceAccount.built.heap, 6⟩ ∧
      textOf ⟨twiceAccount.built.heap, 4⟩ = .ok "a" ∧
      textOf ⟨twiceAccount.built.heap, 6⟩ = .ok "a" := by
    decide +kernel
  have hm : twiceAccount.valueAt? 2 = some part :=
    twiceAccount.valueAt?_eq_some_iff.mpr ⟨hplace ▸ hplaces.1, hheap⟩
  have hk₁ : twiceAccount.valueAt? 3 = some ⟨twiceAccount.built.heap, 4⟩ :=
    twiceAccount.valueAt?_eq_some_iff.mpr ⟨hplaces.2.1, rfl⟩
  have hk₂ : twiceAccount.valueAt? 7 = some ⟨twiceAccount.built.heap, 6⟩ :=
    twiceAccount.valueAt?_eq_some_iff.mpr ⟨hplaces.2.2, rfl⟩
  obtain ⟨pairs, kept, _, hview, hkept, -, hsame, -⟩ :=
    repeatedName_decided twiceAccount htoolchain rfl hpart hm hgraph.1 hgraph.2 hk₁ hk₂
      hkeys.2.1 hkeys.2.2 "etc"
  obtain ⟨-, last, hlast, hvalue⟩ := hsame hkeys.1
  obtain rfl := List.mem_singleton.mp hlast
  exact ⟨part, pairs, kept, hpart, hview, hkept, hvalue⟩

/-- The file is loaded, and the entry that was written first is gone. -/
theorem twiceWritten_loaded :
    twiceAccount.graph.own 2 = [(3, 4), (7, 8)] ∧
      (twiceAccount.valueAt? 3).map textOf = some (.ok "a") ∧
      (twiceAccount.valueAt? 7).map textOf = some (.ok "a") ∧
      ∃ config, twiceFiles.load "etc" = .ok config ∧
        config.catalogue.entries.map Entry.description = [("x" : Text)] := by
  have hwritten : twiceAccount.graph.own 2 = [(3, 4), (7, 8)] ∧
      (twiceAccount.valueAt? 3).map textOf = some (.ok "a") ∧
      (twiceAccount.valueAt? 7).map textOf = some (.ok "a") := by
    decide +kernel
  have hloaded : (twiceFiles.load "etc").toOption.map (fun config =>
      config.catalogue.entries.map Entry.description) = some [("x" : Text)] := by
    decide +kernel
  obtain ⟨config, hconfig, hentries⟩ := Option.map_eq_some_iff.mp hloaded
  refine ⟨hwritten.1, hwritten.2.1, hwritten.2.2, config, ?_, hentries⟩
  cases hload : twiceFiles.load "etc" with
  | error failure =>
    rw [hload] at hconfig
    cases hconfig
  | ok loaded =>
    rw [hload] at hconfig
    rw [Option.some.inj hconfig]

end BuildDispatch
