import BuildDispatch.Proofs.Yaml.Building

/-!
# What a text writes

How the value of a document has come about: from the graph of the text, whose nodes have come to
values. So one can ask what a node has come to, and what the mapping that a node writes has made of
each of the entries that stand in the text.

## Main definitions

* `Account`: how a value was read from a source.
* `Account.valueAt?`: what a node has come to.

## Main statements

* `exists_account`: whatever is read has an account.
* `Account.find?_written`: a key that stands in the text leads to one entry, with a value that was
  written with the key or later.
-/

namespace BuildDispatch

/-- The entries of a mapping, as places of a heap and as values. -/
def Heap.valuesOf (h : Heap) (entry : Place × Place) : Value × Value :=
  (⟨h, entry.1⟩, ⟨h, entry.2⟩)

theorem Heap.find?_valuesOf (h : Heap) (entries : List (Place × Place)) (key : Place) :
    (entries.map h.valuesOf).find? (fun pair => pair.1.sameKey ⟨h, key⟩) =
      (h.entryOf entries key).map h.valuesOf := by
  rw [List.find?_map]
  rfl

namespace Yaml

/-- How the value of a source has come about. -/
structure Account (source : Source) where
  graph : Graph
  root : NodeId
  place : Place
  built : Progress
  composed : Document.ofTokens (Tokens.ofSource source) = .ok (some (graph, root))
  completed : (Building.document root).run { graph } = .ok (place, built)

theorem exists_account {source : Source} {v : Value} (h : valueOf source = .ok v) :
    v = .null ∨ ∃ a : Account source, v = ⟨a.built.heap, a.place⟩ := by
  unfold valueOf at h
  obtain ⟨document?, hcomposed, h⟩ := bind_eq_ok_iff.mp h
  cases document? with
  | none => exact .inl (Except.ok.inj h).symm
  | some document =>
    obtain ⟨⟨place, built⟩, hcompleted, h⟩ := bind_eq_ok_iff.mp h
    exact .inr ⟨⟨_, _, place, built, hcomposed, hcompleted⟩, (Except.ok.inj h).symm⟩

namespace Account

/-- The account of a source that has one. -/
def of? (source : Source) : Option (Account source) :=
  match hcomposed : Document.ofTokens (Tokens.ofSource source) with
  | .ok (some (graph, root)) =>
    match hcompleted : (Building.document root).run { graph } with
    | .ok (place, built) => some ⟨graph, root, place, built, hcomposed, hcompleted⟩
    | .error _ => none
  | _ => none

variable {source : Source} (a : Account source)

/-- The value of the whole document. -/
def value : Value := ⟨a.built.heap, a.place⟩

/-- What a node has come to, if it belongs to the document. -/
def valueAt? (id : NodeId) : Option Value :=
  (a.built.placeOf? id).map fun p => ⟨a.built.heap, p⟩

theorem valueOf_eq : valueOf source = .ok a.value := by
  unfold valueOf
  rw [a.composed]
  change Graph.value a.graph a.root = _
  rw [Graph.value, a.completed]
  rfl

theorem valueAt?_eq_some_iff {id : NodeId} {v : Value} :
    a.valueAt? id = some v ↔ a.built.placeOf? id = some v.place ∧ v.heap = a.built.heap := by
  rw [valueAt?, Option.map_eq_some_iff]
  constructor
  · rintro ⟨p, hp, rfl⟩
    exact ⟨hp, rfl⟩
  · rintro ⟨hp, hheap⟩
    exact ⟨v.place, hp, by rw [← hheap]⟩

variable {a} {id : NodeId} {v key : Value} {pairs : List (Value × Value)}
  {before after : List (NodeId × NodeId)} {entry : NodeId × NodeId}

/-- The entries that stand in the text have come to the last of the pairs. -/
theorem exists_gathered (hv : a.valueAt? id = some v) (hmap : a.graph.tag id = .map) :
    ∃ places, Progress.Gathers a.graph a.built id places ∧
      v.view = .mapping ((a.built.heap.ofPairs places).map a.built.heap.valuesOf) := by
  obtain ⟨hplace, hheap⟩ := a.valueAt?_eq_some_iff.mp hv
  obtain ⟨places, hgathers, hlook⟩ := (Building.run_document a.completed).2 hplace hmap
  refine ⟨places, hgathers, ?_⟩
  rw [Value.view, hheap, hlook]
  rfl

theorem exists_view (hv : a.valueAt? id = some v) (hmap : a.graph.tag id = .map) :
    ∃ pairs, v.view = .mapping pairs :=
  have ⟨_, _, hview⟩ := exists_gathered hv hmap
  ⟨_, hview⟩

theorem heap_eq {other : NodeId} {w : Value} (hv : a.valueAt? id = some v)
    (hw : a.valueAt? other = some w) : v.heap = w.heap :=
  (a.valueAt?_eq_some_iff.mp hv).2.trans (a.valueAt?_eq_some_iff.mp hw).2.symm

/-- A key that stands in the text leads to one entry, with a value that was written with the key
or later. -/
theorem find?_written (hv : a.valueAt? id = some v) (hmap : a.graph.tag id = .map)
    (hpairs : v.view = .mapping pairs) (hentry : a.graph.own id = before ++ entry :: after)
    (hkey : a.valueAt? entry.1 = some key) :
    ∃ kept, pairs.find? (fun pair => pair.1.sameKey key) = some kept ∧
      ∃ last ∈ entry :: after, a.valueAt? last.2 = some kept.2 := by
  obtain ⟨places, ⟨entries, ⟨merged, rfl⟩, hwrites⟩, hview⟩ := exists_gathered hv hmap
  obtain rfl := Shape.mapping.inj (hpairs.symm.trans hview)
  rw [hentry, ← List.append_assoc] at hwrites
  obtain ⟨front, pair, back, rfl, hpair, hback⟩ := exists_split_of_forall₂ hwrites
  obtain ⟨hkeyPlace, hheap⟩ := a.valueAt?_eq_some_iff.mp hkey
  obtain rfl : key = ⟨a.built.heap, pair.1⟩ := by
    rw [← hheap, ← Option.some.inj (hkeyPlace.symm.trans hpair.key)]
  obtain ⟨kept, last, hlast, hfound⟩ := a.built.heap.entryOf_ofPairs front pair back
  refine ⟨a.built.heap.valuesOf (kept, last), ?_, ?_⟩
  · rw [Heap.find?_valuesOf, hfound, Option.map_some]
  · obtain ⟨written, hwritten, rfl⟩ := List.mem_map.mp hlast
    obtain ⟨last, hlast, hwrites⟩ := exists_of_forall₂_of_mem (.cons hpair hback) hwritten
    exact ⟨last, hlast, a.valueAt?_eq_some_iff.mpr ⟨hwrites.value, rfl⟩⟩

end Account
end Yaml
end BuildDispatch
