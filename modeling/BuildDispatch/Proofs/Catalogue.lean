import Mathlib.Data.List.Nodup
import Mathlib.Data.List.Pairwise
import BuildDispatch.Catalogue
import BuildDispatch.Proofs.Bindings

/-!
# What a catalogue lists

A catalogue is made by putting entries under their names, one after the other.
`Catalogue.Lists c es` says that `c` comes from the entries `es` in this way and that no name was
used twice; then every name leads to the one entry that has it.
-/

namespace BuildDispatch

/-- Two members of a list that have something in common are the same, if nothing comes up twice. -/
theorem eq_of_nodup_flatMap {α β : Type} {f : α → List β} {l : List α} (h : (l.flatMap f).Nodup)
    {a b : α} (ha : a ∈ l) (hb : b ∈ l) {x : β} (hax : x ∈ f a) (hbx : x ∈ f b) : a = b := by
  by_contra hab
  have apart := (List.nodup_flatMap.mp h).2
  have : Std.Symm (Function.onFun List.Disjoint f) := ⟨fun _ _ => List.disjoint_symm⟩
  exact apart.forall ha hb hab hax hbx

/-- The entry under each of its names. -/
def Entry.bindings (e : Entry) : List (Text × Entry) := e.names.map fun name => (name, e)

theorem Entry.name_mem_names (e : Entry) : e.name ∈ e.names := List.mem_cons_self

namespace Catalogue

/-- The catalogue holds the entries in order, each under its names, no name being used twice. -/
structure Lists (c : Catalogue) (es : List Entry) : Prop where
  toList_eq : c.toList = es.flatMap Entry.bindings
  nodup : (es.flatMap Entry.names).Nodup

theorem map_fst_bindings (e : Entry) : e.bindings.map Prod.fst = e.names := by
  simp [Entry.bindings, Function.comp_def]

theorem Lists.keys {c : Catalogue} {es : List Entry} (h : c.Lists es) :
    c.keys = es.flatMap Entry.names := by
  rw [Bindings.keys, h.toList_eq, List.map_flatMap]
  simp only [map_fst_bindings]

/-- Two entries that share a name are the same. -/
theorem Lists.eq_of_mem_names {c : Catalogue} {es : List Entry} (h : c.Lists es) {e f : Entry}
    (he : e ∈ es) (hf : f ∈ es) {name : Text} (hne : name ∈ e.names) (hnf : name ∈ f.names) :
    e = f :=
  eq_of_nodup_flatMap h.nodup he hf hne hnf

theorem Lists.find?_eq_some_iff {c : Catalogue} {es : List Entry} (h : c.Lists es) {name : Text}
    {e : Entry} : c.find? name = some e ↔ e ∈ es ∧ name ∈ e.names := by
  have mem_of_find : ∀ {f}, c.find? name = some f → f ∈ es ∧ name ∈ f.names := by
    intro f hf
    have hmem := Bindings.mem_toList_of_find? hf
    rw [h.toList_eq] at hmem
    obtain ⟨g, hg, hpair⟩ := List.mem_flatMap.mp hmem
    obtain ⟨n, hn, hnf⟩ := List.mem_map.mp hpair
    obtain ⟨rfl, rfl⟩ := Prod.mk.inj hnf
    exact ⟨hg, hn⟩
  constructor
  · exact mem_of_find
  · rintro ⟨he, hname⟩
    have hkey : name ∈ c.keys := by
      rw [h.keys]
      exact List.mem_flatMap.mpr ⟨e, he, hname⟩
    obtain ⟨f, hf⟩ := Bindings.exists_find?_of_mem_keys hkey
    obtain ⟨hfes, hnf⟩ := mem_of_find hf
    rw [hf, h.eq_of_mem_names hfes he hnf hname]

/-- The first name of an entry leads to it, whatever name led to it before. -/
theorem Lists.find?_name {c : Catalogue} {es : List Entry} (h : c.Lists es) {name : Text}
    {e : Entry} (he : c.find? name = some e) : c.find? e.name = some e :=
  h.find?_eq_some_iff.mpr ⟨(h.find?_eq_some_iff.mp he).1, e.name_mem_names⟩

/-! ### The entries, each once -/

theorem distinctFrom_cons_of_mem {seen : List Text} {e : Entry} (h : e.name ∈ seen)
    (rest : List Entry) : distinctFrom seen (e :: rest) = distinctFrom seen rest :=
  if_pos h

theorem distinctFrom_cons_of_notMem {seen : List Text} {e : Entry} (h : e.name ∉ seen)
    (rest : List Entry) :
    distinctFrom seen (e :: rest) = e :: distinctFrom (e.name :: seen) rest :=
  if_neg h

theorem distinctFrom_append_of_mem {seen : List Text} {e : Entry} (h : e.name ∈ seen)
    (names : List Text) (rest : List Entry) :
    distinctFrom seen (names.map (fun _ => e) ++ rest) = distinctFrom seen rest := by
  induction names with
  | nil => rfl
  | cons name others ih => rw [List.map_cons, List.cons_append, distinctFrom_cons_of_mem h, ih]

/-- Of entries that come up once for each of their names, each is kept once. -/
theorem distinctFrom_flatMap {seen : List Text} {es : List Entry}
    (hseen : ∀ e ∈ es, e.name ∉ seen) (hnodup : (es.map Entry.name).Nodup) :
    distinctFrom seen (es.flatMap fun e => e.names.map fun _ => e) = es := by
  induction es generalizing seen with
  | nil => rfl
  | cons e rest ih =>
    have hnew : e.name ∉ seen := hseen e List.mem_cons_self
    obtain ⟨hname, hrest⟩ := List.nodup_cons.mp hnodup
    -- The first name keeps the entry, and its aliases only meet it again.
    rw [List.flatMap_cons, Entry.names, List.map_cons, List.cons_append,
      distinctFrom_cons_of_notMem hnew, distinctFrom_append_of_mem List.mem_cons_self, ih ?_ hrest]
    intro f hf hmem
    rcases List.mem_cons.mp hmem with heq | hmem
    · exact hname (heq ▸ List.mem_map_of_mem hf)
    · exact hseen f (List.mem_cons_of_mem _ hf) hmem

theorem map_name_sublist (es : List Entry) :
    (es.map Entry.name).Sublist (es.flatMap Entry.names) := by
  induction es with
  | nil => exact .slnil
  | cons e rest ih =>
    rw [List.map_cons, List.flatMap_cons, Entry.names, List.cons_append]
    exact (ih.trans (List.sublist_append_right _ _)).cons_cons _

/-- Reading the entries back from the names gives what was put in. -/
theorem Lists.entries_eq {c : Catalogue} {es : List Entry} (h : c.Lists es) : c.entries = es := by
  have hsnd : c.toList.map Prod.snd = es.flatMap fun e => e.names.map fun _ => e := by
    rw [h.toList_eq, List.map_flatMap]
    simp only [Entry.bindings, List.map_map, Function.comp_def]
  rw [entries, hsnd]
  exact distinctFrom_flatMap (by simp) (h.nodup.sublist (map_name_sublist es))

/-! ### Adding entries -/

/-- Names are added one by one; each must be new to the catalogue and to those before it. -/
theorem foldlM_insert_eq_ok_iff (e : Entry) (names : List Text) (c c' : Catalogue) :
    names.foldlM (fun c name =>
      if c.contains name then .error (.duplicateName name) else .ok (c.insert name e)) c =
        (.ok c' : Except ConfigFault Catalogue) ↔
      names.Nodup ∧ (∀ name ∈ names, name ∉ c.keys) ∧
        c'.toList = c.toList ++ names.map fun name => (name, e) := by
  induction names generalizing c with
  | nil =>
    have : c = c' ↔ c'.toList = c.toList :=
      ⟨fun h => h ▸ rfl, fun h => by cases c; cases c'; exact congrArg _ h.symm⟩
    simpa [pure, Except.pure] using this
  | cons name rest ih =>
    rw [List.foldlM_cons]
    by_cases hname : name ∈ c.keys
    · rw [if_pos ((Bindings.contains_iff_mem_keys c name).mpr hname)]
      simp [bind, Except.bind, hname]
    · have hcontains : ¬ c.contains name = true :=
        fun h => hname ((Bindings.contains_iff_mem_keys c name).mp h)
      rw [if_neg hcontains]
      -- From here on the rest is added to a catalogue that has this name, too.
      change rest.foldlM _ (c.insert name e) = _ ↔ _
      rw [ih, Bindings.toList_insert_of_notMem hname]
      simp only [Bindings.keys_insert, if_neg hname, List.mem_append, List.mem_singleton, not_or,
        List.nodup_cons, List.map_cons, List.append_assoc, List.singleton_append]
      constructor
      · rintro ⟨hnodup, hfresh, hlist⟩
        refine ⟨⟨fun hmem => (hfresh name hmem).2 rfl, hnodup⟩, ?_, hlist⟩
        intro other hother
        rcases List.mem_cons.mp hother with rfl | hother
        · exact hname
        · exact (hfresh other hother).1
      · rintro ⟨⟨hnotMem, hnodup⟩, hfresh, hlist⟩
        refine ⟨hnodup, fun other hother => ⟨hfresh other (List.mem_cons_of_mem _ hother), ?_⟩,
          hlist⟩
        rintro rfl
        exact hnotMem hother

theorem addNew_eq_ok_iff (c c' : Catalogue) (e : Entry) :
    c.addNew e = .ok c' ↔
      e.names.Nodup ∧ (∀ name ∈ e.names, name ∉ c.keys) ∧
        c'.toList = c.toList ++ e.bindings :=
  foldlM_insert_eq_ok_iff e e.names c c'

theorem keys_of_addNew {c c' : Catalogue} {e : Entry} (h : c.addNew e = .ok c') :
    c'.keys = c.keys ++ e.names := by
  rw [Bindings.keys, ((addNew_eq_ok_iff c c' e).mp h).2.2, List.map_append, map_fst_bindings]
  rfl

end Catalogue
end BuildDispatch
