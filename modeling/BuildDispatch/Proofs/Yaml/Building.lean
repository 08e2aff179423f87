import Mathlib.Data.List.Nodup
import BuildDispatch.Proofs.Value.Keys
import BuildDispatch.Proofs.Yaml.Preparing

/-!
# Building values

What a document is built into. Values only come to the heap, and none is changed but the containers
that wait to be filled, each of which is filled once. So a mapping has in the end what its entries
have come to: pairs of keys and values, its own behind those that are merged into it, of which the
mapping keeps one for each key.

## Main definitions

* `Progress.placeOf?`: the place of the value of a node.
* `Progress.Writes`: the pair that an entry has come to.
* `Progress.Sound`: what holds at each step, some containers still to be filled.

## Main statements

* `Building.run_document`: all mappings of a document are filled.
-/

namespace BuildDispatch.Yaml

namespace Progress

/-- The place of the value of a node, if it has one. -/
def placeOf? (s : Progress) (id : NodeId) : Option Place :=
  (s.places.find? fun known => known.1 = id).map Prod.snd

/-- What all later states keep of a state: the places of values, and what is there if it is no
container. -/
structure Extends (s t : Progress) : Prop where
  placeOf? : ∀ {id p}, s.placeOf? id = some p → t.placeOf? id = some p
  size : s.heap.shapes.size ≤ t.heap.shapes.size
  key : ∀ {p}, p < s.heap.shapes.size → (s.heap.look p).isKey = true → t.heap.look p = s.heap.look p

/-- What is kept until a container is filled: nothing that has a place is changed. -/
structure Grows (s t : Progress) : Prop where
  prepares : s.graph.Prepares t.graph
  placeOf? : ∀ {id p}, s.placeOf? id = some p → t.placeOf? id = some p
  size : s.heap.shapes.size ≤ t.heap.shapes.size
  look : ∀ {p}, p < s.heap.shapes.size → t.heap.look p = s.heap.look p

/-- The pair that an entry has come to. -/
structure Writes (s : Progress) (entry : NodeId × NodeId) (pair : Place × Place) : Prop where
  key : s.placeOf? entry.1 = some pair.1
  value : s.placeOf? entry.2 = some pair.2
  lt : pair.1 < s.heap.shapes.size
  isKey : (s.heap.look pair.1).isKey = true

/-- The pairs that the entries of a mapping have come to, those of its own last. -/
def Gathers (g : Graph) (s : Progress) (id : NodeId) (pairs : List (Place × Place)) : Prop :=
  ∃ entries, g.own id <:+ entries ∧ List.Forall₂ s.Writes entries pairs

/-- The value of a mapping has the pairs of its entries. -/
def Filled (g : Graph) (s : Progress) (id : NodeId) (p : Place) : Prop :=
  ∃ pairs, Gathers g s id pairs ∧ s.heap.look p = .mapping (s.heap.ofPairs pairs)

/-- What holds while values are built for `g`. The containers in `todo` are no longer waiting and
not filled either. -/
structure Sound (g : Graph) (todo : List (NodeId × Place)) (s : Progress) : Prop where
  prepares : g.Prepares s.graph
  size_pos : 0 < s.heap.shapes.size
  placed : ∀ {id p}, s.placeOf? id = some p → p < s.heap.shapes.size
  unfilled : ∀ p ∈ (todo ++ s.waiting).map Prod.snd,
    p < s.heap.shapes.size ∧ (s.heap.look p).isKey = false
  nodup : ((todo ++ s.waiting).map Prod.snd).Nodup
  filled : ∀ {id p}, s.placeOf? id = some p → g.tag id = .map →
    (id, p) ∈ todo ++ s.waiting ∨ (p ∉ (todo ++ s.waiting).map Prod.snd ∧ Filled g s id p)

variable {g : Graph} {todo : List (NodeId × Place)} {s t u : Progress} {id : NodeId} {p : Place}

theorem placeOf?_cons (s : Progress) (id other : NodeId) (p : Place) :
    placeOf? { s with places := (id, p) :: s.places } other =
      if id = other then some p else s.placeOf? other := by
  unfold placeOf?
  by_cases h : id = other
  · simp [h]
  · simp [h]

/-! ### Growing -/

namespace Grows

theorem refl (s : Progress) : Grows s s := ⟨.refl _, fun hp => hp, Nat.le_refl _, fun _ => rfl⟩

theorem trans (h : Grows s t) (h' : Grows t u) : Grows s u where
  prepares := h.prepares.trans h'.prepares
  placeOf? hp := h'.placeOf? (h.placeOf? hp)
  size := Nat.le_trans h.size h'.size
  look hp := (h'.look (Nat.lt_of_lt_of_le hp h.size)).trans (h.look hp)

theorem toExtends (h : Grows s t) : Extends s t := ⟨h.placeOf?, h.size, fun hp _ => h.look hp⟩

end Grows

theorem Extends.refl (s : Progress) : Extends s s :=
  ⟨fun hp => hp, Nat.le_refl _, fun _ _ => rfl⟩

theorem Extends.trans (h : Extends s t) (h' : Extends t u) : Extends s u where
  placeOf? hp := h'.placeOf? (h.placeOf? hp)
  size := Nat.le_trans h.size h'.size
  key hp hkey := by
    have hlook := h.key hp hkey
    rw [h'.key (Nat.lt_of_lt_of_le hp h.size) (by rw [hlook, hkey]), hlook]

section Extends

variable (h : Extends s t)

include h

theorem Writes.mono {entry : NodeId × NodeId} {pair : Place × Place}
    (hw : s.Writes entry pair) : t.Writes entry pair where
  key := h.placeOf? hw.key
  value := h.placeOf? hw.value
  lt := Nat.lt_of_lt_of_le hw.lt h.size
  isKey := by rw [h.key hw.lt hw.isKey, hw.isKey]

/-- The mapping that pairs make stays the same, since their keys do. -/
theorem Gathers.mono {pairs : List (Place × Place)} (hg : Gathers g s id pairs) :
    Gathers g t id pairs ∧ t.heap.ofPairs pairs = s.heap.ofPairs pairs := by
  obtain ⟨entries, hown, hwrites⟩ := hg
  have hkeys : ∀ pair ∈ pairs, t.heap.look pair.1 = s.heap.look pair.1 := by
    intro pair hpair
    obtain ⟨entry, -, hw⟩ := exists_of_forall₂_of_mem hwrites hpair
    exact h.key hw.lt hw.isKey
  exact ⟨⟨entries, hown, hwrites.imp fun _ _ => Writes.mono h⟩, Heap.ofPairs_congr hkeys⟩

theorem Filled.mono (hf : Filled g s id p) (hlook : t.heap.look p = s.heap.look p) :
    Filled g t id p := by
  obtain ⟨pairs, hgathers, hmapping⟩ := hf
  obtain ⟨hgathers', hpairs⟩ := hgathers.mono h
  exact ⟨pairs, hgathers', by rw [hlook, hmapping, hpairs]⟩

end Extends

/-! ### Steps -/

namespace Sound

theorem prepared (hs : Sound g todo s) (h : Building.Prepared s t) :
    Sound g todo t ∧ Grows s t := by
  obtain ⟨g', hg, rfl⟩ := h
  have hgrows : Grows s { s with graph := g' } :=
    ⟨hg, fun hp => hp, Nat.le_refl _, fun _ => rfl⟩
  refine ⟨⟨hs.prepares.trans hg, hs.size_pos, hs.placed, hs.unfilled, hs.nodup, ?_⟩, hgrows⟩
  intro id p hp hmap
  exact (hs.filled hp hmap).imp_right fun h => ⟨h.1, h.2.mono hgrows.toExtends rfl⟩

/-- A new place. -/
theorem addShape (hs : Sound g todo s) (shape : Shape Place) :
    Sound g todo { s with heap := (s.heap.add shape).1 } ∧
      Grows s { s with heap := (s.heap.add shape).1 } := by
  have hsize : (s.heap.add shape).1.shapes.size = s.heap.shapes.size + 1 := by simp [Heap.add]
  have hgrows : Grows s { s with heap := (s.heap.add shape).1 } :=
    ⟨.refl _, fun hp => hp, by simp [hsize], fun hp => s.heap.look_add_of_lt shape hp⟩
  refine ⟨⟨hs.prepares, ?_, ?_, ?_, hs.nodup, ?_⟩, hgrows⟩
  · exact Nat.lt_of_lt_of_le hs.size_pos hgrows.size
  · exact fun hp => Nat.lt_of_lt_of_le (hs.placed hp) hgrows.size
  · intro p hp
    obtain ⟨hlt, hkey⟩ := hs.unfilled p hp
    exact ⟨Nat.lt_of_lt_of_le hlt hgrows.size, by rw [hgrows.look hlt, hkey]⟩
  · intro id p hp hmap
    exact (hs.filled hp hmap).imp_right fun h =>
      ⟨h.1, h.2.mono hgrows.toExtends (hgrows.look (hs.placed hp))⟩

/-- A node without a place gets one; if it writes a mapping, the mapping waits to be filled. -/
theorem place (hs : Sound g todo s) (hnew : s.placeOf? id = none) (hp : p < s.heap.shapes.size)
    (hmap : g.tag id = .map → (id, p) ∈ todo ++ s.waiting) :
    Sound g todo { s with places := (id, p) :: s.places } ∧
      Grows s { s with places := (id, p) :: s.places } := by
  have hgrows : Grows s { s with places := (id, p) :: s.places } := by
    refine ⟨.refl _, fun {other q} hq => ?_, Nat.le_refl _, fun _ => rfl⟩
    rw [placeOf?_cons, if_neg, hq]
    rintro rfl
    cases hnew.symm.trans hq
  refine ⟨⟨hs.prepares, hs.size_pos, ?_, hs.unfilled, hs.nodup, ?_⟩, hgrows⟩
  · intro other q hq
    rw [placeOf?_cons] at hq
    split at hq
    · cases hq
      exact hp
    · exact hs.placed hq
  · intro other q hq hother
    rw [placeOf?_cons] at hq
    split at hq
    · next heq =>
      cases hq
      subst heq
      exact .inl (hmap hother)
    · exact (hs.filled hq hother).imp_right fun h => ⟨h.1, h.2.mono hgrows.toExtends rfl⟩

/-- A container waits that nothing has come to yet. -/
theorem wait (hs : Sound g todo s) (hp : p < s.heap.shapes.size)
    (hkey : (s.heap.look p).isKey = false) (hpending : p ∉ (todo ++ s.waiting).map Prod.snd)
    (hplaces : ∀ other, s.placeOf? other ≠ some p) (id : NodeId) :
    Sound g todo { s with waiting := s.waiting ++ [(id, p)] } ∧
      Grows s { s with waiting := s.waiting ++ [(id, p)] } := by
  have hgrows : Grows s { s with waiting := s.waiting ++ [(id, p)] } :=
    ⟨.refl _, fun hp => hp, Nat.le_refl _, fun _ => rfl⟩
  have hmap : (todo ++ (s.waiting ++ [(id, p)])).map Prod.snd =
      (todo ++ s.waiting).map Prod.snd ++ [p] := by simp
  refine ⟨⟨hs.prepares, hs.size_pos, hs.placed, ?_, ?_, ?_⟩, hgrows⟩
  · dsimp only
    rw [hmap]
    exact List.forall_mem_append.mpr ⟨hs.unfilled, List.forall_mem_singleton.mpr ⟨hp, hkey⟩⟩
  · dsimp only
    rw [hmap]
    exact (List.concat_eq_append ▸ hs.nodup.concat hpending)
  · intro other q hq hother
    dsimp only
    rw [hmap, ← List.append_assoc]
    rcases hs.filled hq hother with hwaits | ⟨hdone, hfilled⟩
    · exact .inl (List.mem_append_left _ hwaits)
    · refine .inr ⟨?_, hfilled.mono hgrows.toExtends rfl⟩
      rw [List.mem_append, List.mem_singleton, not_or]
      refine ⟨hdone, ?_⟩
      rintro rfl
      exact hplaces other hq

/-- A container has its turn. -/
theorem take {rest : List (NodeId × Place)} (hs : Sound g [] s)
    (hwaiting : s.waiting = (id, p) :: rest) :
    Sound g [(id, p)] { s with waiting := rest } ∧ Extends s { s with waiting := rest } := by
  obtain ⟨hprepares, hsize, hplaced, hunfilled, hnodup, hfilled⟩ := hs
  rw [hwaiting] at hunfilled hnodup hfilled
  have hextends : Extends s { s with waiting := rest } :=
    ⟨fun hq => hq, Nat.le_refl _, fun _ _ => rfl⟩
  refine ⟨⟨hprepares, hsize, hplaced, hunfilled, hnodup, fun hq hmap => ?_⟩, hextends⟩
  exact (hfilled hq hmap).imp_right fun h => ⟨h.1, h.2.mono hextends rfl⟩

theorem notMem_waiting (hs : Sound g [(id, p)] s) : p ∉ s.waiting.map Prod.snd :=
  (List.nodup_cons.mp hs.nodup).1

/-- The container whose turn it is belongs to one node. -/
theorem eq_of_placeOf? (hs : Sound g [(id, p)] s) {other : NodeId} (hp : s.placeOf? other = some p)
    (hmap : g.tag other = .map) : other = id := by
  rcases hs.filled hp hmap with hwaits | ⟨hdone, -⟩
  · rcases List.mem_cons.mp hwaits with heq | hwaits
    · exact congrArg Prod.fst heq
    · exact absurd (List.mem_map_of_mem hwaits) hs.notMem_waiting
  · exact absurd List.mem_cons_self hdone

/-- A container is filled. No key has come to it, so what other mappings hold stays the same. -/
theorem put (hs : Sound g [(id, p)] s) {shape : Shape Place}
    (hshape : g.tag id = .map →
      ∃ pairs, Gathers g s id pairs ∧ shape = .mapping (s.heap.ofPairs pairs)) :
    Sound g [] { s with heap := s.heap.put p shape } ∧
      Extends s { s with heap := s.heap.put p shape } := by
  obtain ⟨hp, hkey⟩ := hs.unfilled p List.mem_cons_self
  have hsize : (s.heap.put p shape).shapes.size = s.heap.shapes.size := by simp [Heap.put]
  have hextends : Extends s { s with heap := s.heap.put p shape } := by
    refine ⟨fun hq => hq, Nat.le_of_eq hsize.symm, fun {q} _ hq => ?_⟩
    exact s.heap.look_put_of_ne shape (by rintro rfl; rw [hkey] at hq; cases hq)
  refine ⟨⟨hs.prepares, ?_, ?_, ?_, (List.nodup_cons.mp hs.nodup).2, ?_⟩, hextends⟩
  · exact Nat.lt_of_lt_of_eq hs.size_pos hsize.symm
  · exact fun hq => Nat.lt_of_lt_of_eq (hs.placed hq) hsize.symm
  · intro q hq
    have hne : q ≠ p := by rintro rfl; exact hs.notMem_waiting hq
    obtain ⟨hlt, hkey⟩ := hs.unfilled q (List.mem_cons_of_mem _ hq)
    exact ⟨Nat.lt_of_lt_of_eq hlt hsize.symm, by rwa [s.heap.look_put_of_ne shape hne]⟩
  · intro other q hq hother
    by_cases hqp : q = p
    · subst hqp
      obtain rfl := hs.eq_of_placeOf? hq hother
      obtain ⟨pairs, hgathers, hpairs⟩ := hshape hother
      obtain ⟨hgathers', hsame⟩ := hgathers.mono hextends
      refine .inr ⟨hs.notMem_waiting, pairs, hgathers', ?_⟩
      rw [hsame, ← hpairs]
      exact s.heap.look_put_self shape hp
    · rcases hs.filled hq hother with hwaits | ⟨hdone, hfilled⟩
      · rcases List.mem_cons.mp hwaits with heq | hwaits
        · exact absurd (congrArg Prod.snd heq) hqp
        · exact .inl hwaits
      · refine .inr ⟨fun hmem => hdone (List.mem_cons_of_mem _ hmem), ?_⟩
        exact hfilled.mono hextends (s.heap.look_put_of_ne shape hqp)

end Sound

end Progress

namespace Building

open Progress

variable {g : Graph} {todo : List (NodeId × Place)} {s t : Progress} {id : NodeId} {p : Place}

/-! ### Values -/

@[simp] theorem run_get_bind {β : Type} (f : Progress → Building β) :
    (get >>= f).run s = (f s).run s := rfl

@[simp] theorem run_modify_bind {β : Type} (f : Progress → Progress) (k : Unit → Building β) :
    (modify f >>= k).run s = (k ()).run (f s) := rfl

theorem eq_of_run_textFrom {fuel : Nat} {text : Text}
    (h : (textFrom fuel id).run s = .ok (text, t)) : t = s := by
  induction fuel generalizing id with
  | zero => cases h
  | succ fuel ih =>
    unfold textFrom at h
    rw [run_graph_bind] at h
    split at h
    · exact (run_pure_eq_ok_iff.mp h).2.symm
    · cases h
    · split at h
      · exact ih h
      · cases h

/-- A scalar is the shared `nan` or comes to a new place. -/
theorem run_scalarAt {tag : Tag} (hs : Sound g todo s)
    (h : (scalarAt tag id).run s = .ok (p, t)) :
    Sound g todo t ∧ Grows s t ∧ t.places = s.places ∧ p < t.heap.shapes.size := by
  unfold scalarAt textAt at h
  obtain ⟨text, u, htext, hshape⟩ := run_bind_eq_ok_iff.mp h
  rw [run_graph_bind] at htext hshape
  obtain rfl := eq_of_run_textFrom htext
  split at hshape
  · cases hshape
  · split at hshape
    · cases hshape
    · obtain ⟨rfl, rfl⟩ := run_pure_eq_ok_iff.mp hshape
      exact ⟨hs, .refl _, rfl, hs.size_pos⟩
    · next shape _ =>
      cases hshape
      obtain ⟨hadd, hgrows⟩ := hs.addShape shape
      exact ⟨hadd, hgrows, rfl, by simp⟩

theorem isKey_of_emptyShape {tag : Tag} {shape : Shape Place} (h : emptyShape? tag = some shape) :
    shape.isKey = false := by
  unfold emptyShape? at h
  split at h <;> first | cases h; rfl | cases h

/-- A container starts empty, and waits. -/
theorem Sound.container (hs : Sound g todo s) {shape : Shape Place} (hkey : shape.isKey = false)
    (id : NodeId) :
    let t : Progress := { s with
      heap := (s.heap.add shape).1
      waiting := s.waiting ++ [(id, s.heap.shapes.size)] }
    Sound g todo t ∧ Grows s t := by
  obtain ⟨hadd, hgrows⟩ := hs.addShape shape
  have hnew : (s.heap.add shape).1.look s.heap.shapes.size = shape := s.heap.look_add shape
  have hsize : s.heap.shapes.size < (s.heap.add shape).1.shapes.size := by simp [Heap.add]
  obtain ⟨hwait, hgrows'⟩ := hadd.wait hsize (by rw [hnew, hkey])
    (fun hmem => Nat.lt_irrefl _ (hs.unfilled _ hmem).1)
    (fun other hplace => Nat.lt_irrefl _ (hs.placed hplace)) id
  exact ⟨hwait, hgrows.trans hgrows'⟩

/-- A node has a value, once it has been asked for. -/
theorem run_valueAt (hs : Sound g todo s) (h : (valueAt id).run s = .ok (p, t)) :
    Sound g todo t ∧ Grows s t ∧ t.placeOf? id = some p := by
  unfold valueAt at h
  rw [run_get_bind] at h
  split at h
  · next known hknown =>
    obtain ⟨rfl, rfl⟩ := run_pure_eq_ok_iff.mp h
    exact ⟨hs, .refl s, by rw [placeOf?, hknown, Option.map_some]⟩
  · next hnone =>
    have hnew : s.placeOf? id = none := by rw [placeOf?, hnone, Option.map_none]
    rw [run_graph_bind] at h
    dsimp only at h
    split at h
    · next shape hempty =>
      cases h
      obtain ⟨hwait, hgrows⟩ := Sound.container hs (isKey_of_emptyShape hempty) id
      obtain ⟨hplace, hgrows'⟩ := hwait.place (p := s.heap.shapes.size) hnew
        (by simp [Heap.add]) (fun _ => by simp)
      exact ⟨hplace, hgrows.trans hgrows', by simp [placeOf?]⟩
    · next hscalar =>
      split at h
      · next hasks =>
        obtain ⟨q, u, hq, h⟩ := run_bind_eq_ok_iff.mp h
        cases h
        have hmap : g.tag id ≠ .map := by
          intro hmap
          rw [hs.prepares.tag_eq_map hmap] at hasks
          cases hasks
        obtain ⟨hu, hgrows, hplaces, hlt⟩ := run_scalarAt hs hq
        have hnew' : u.placeOf? id = none := by rwa [placeOf?, hplaces]
        obtain ⟨hplace, hgrows'⟩ := hu.place hnew' hlt fun h => absurd h hmap
        exact ⟨hplace, hgrows.trans hgrows', by simp [placeOf?]⟩
      · cases h

/-! ### Containers -/

theorem run_entryAt {entry : NodeId × NodeId} {pair : Place × Place} (hs : Sound g todo s)
    (h : (entryAt entry).run s = .ok (pair, t)) :
    Sound g todo t ∧ Grows s t ∧ t.Writes entry pair := by
  unfold entryAt at h
  obtain ⟨key, u, hkey, h⟩ := run_bind_eq_ok_iff.mp h
  obtain ⟨hu, hsu, hplace⟩ := run_valueAt hs hkey
  rw [run_get_bind] at h
  split at h
  · next hiskey =>
    obtain ⟨value, v, hvalue, h⟩ := run_bind_eq_ok_iff.mp h
    obtain ⟨rfl, rfl⟩ := run_pure_eq_ok_iff.mp h
    obtain ⟨hv, huv, hvalue⟩ := run_valueAt hu hvalue
    have hlt := hu.placed hplace
    exact ⟨hv, hsu.trans huv, huv.placeOf? hplace, hvalue, Nat.lt_of_lt_of_le hlt huv.size,
      by rw [huv.look hlt, hiskey]⟩
  · cases h

theorem run_pairsAt {pairs : List (Place × Place)} (hs : Sound g todo s)
    (h : (pairsAt id).run s = .ok (pairs, t)) :
    Sound g todo t ∧ Grows s t ∧
      ∃ written, Gathers g t id written ∧ pairs = t.heap.ofPairs written := by
  unfold pairsAt at h
  rw [run_graph_bind] at h
  split at h
  · obtain ⟨_, u, hprepare, h⟩ := run_bind_eq_ok_iff.mp h
    obtain ⟨hprepared, hplain⟩ := run_prepare hprepare
    obtain ⟨hu, hsu⟩ := hs.prepared hprepared
    rw [run_graph_bind] at h
    obtain ⟨written, v, hwritten, h⟩ := run_bind_eq_ok_iff.mp h
    rw [run_get_bind, run_pure_eq_ok_iff] at h
    obtain ⟨rfl, rfl⟩ := h
    obtain ⟨hv, huv, hwrites⟩ := run_mapM (Sound g todo) Grows Writes Grows.refl Grows.trans
      (fun hst hw => hw.mono hst.toExtends) (fun hs hrun => run_entryAt hs hrun) hu hwritten
    refine ⟨hv, hsu.trans huv, written, ⟨_, ?_, hwrites⟩, rfl⟩
    rw [← Graph.own_of_plain hplain]
    exact hu.prepares.own id
  · cases h

/-- A function that gives nodes values. -/
def Builds (g : Graph) (todo : List (NodeId × Place)) (member : NodeId → Building Place) : Prop :=
  ∀ {id s p t}, Sound g todo s → (member id).run s = .ok (p, t) → Sound g todo t ∧ Grows s t

theorem builds_valueAt : Builds g todo valueAt :=
  fun hs h => (run_valueAt hs h).imp_right And.left

theorem builds_pairAt : Builds g todo pairAt := by
  intro id s p t hs h
  unfold pairAt at h
  rw [run_graph_bind] at h
  split at h
  · obtain ⟨key, u, hkey, h⟩ := run_bind_eq_ok_iff.mp h
    obtain ⟨value, v, hvalue, h⟩ := run_bind_eq_ok_iff.mp h
    obtain ⟨hu, hsu⟩ := builds_valueAt hs hkey
    obtain ⟨hv, huv⟩ := builds_valueAt hu hvalue
    cases h
    obtain ⟨hadd, hgrows⟩ := hv.addShape (.pair key value)
    exact ⟨hadd, (hsu.trans huv).trans hgrows⟩
  · cases h

/-- The items of a list come to values one after the other. -/
theorem run_items {β : Type} {member : NodeId → Building Place} {k : List Place → Building β}
    {b : β} (hmember : Builds g todo member) (hs : Sound g todo s)
    (h : (itemsAt id >>= fun items => items.mapM member >>= k).run s = .ok (b, t)) :
    ∃ places u, (Sound g todo u ∧ Grows s u) ∧ (k places).run u = .ok (b, t) := by
  unfold itemsAt at h
  rw [bind_assoc, run_graph_bind] at h
  split at h
  · rw [pure_bind] at h
    obtain ⟨places, u, hplaces, hk⟩ := run_bind_eq_ok_iff.mp h
    obtain ⟨hu, hsu, -⟩ := run_mapM (Sound g todo) Grows (fun _ _ _ => True) Grows.refl
      Grows.trans (fun _ _ => trivial)
      (fun hs hrun => ⟨(hmember hs hrun).1, (hmember hs hrun).2, trivial⟩) hs hplaces
    exact ⟨places, u, ⟨hu, hsu⟩, hk⟩
  · cases h

/-- The container that is next is filled, and those that it holds wait. -/
theorem run_fill (hs : Sound g [(id, p)] s) (h : (fill id p).run s = .ok ((), t)) :
    Sound g [] t ∧ Extends s t := by
  have finish {u : Progress} (hu : Sound g [(id, p)] u ∧ Grows s u) {shape : Shape Place}
      (hput : (putShape p shape).run u = .ok ((), t))
      (hshape : g.tag id = .map →
        ∃ pairs, Gathers g u id pairs ∧ shape = .mapping (u.heap.ofPairs pairs)) :
      Sound g [] t ∧ Extends s t := by
    cases hput
    exact (hu.1.put hshape).imp_right hu.2.toExtends.trans
  have hmap : g.tag id = .map → s.graph.tag id = .map := hs.prepares.tag_eq_map
  unfold fill at h
  rw [run_graph_bind] at h
  split at h
  · next htag =>
    obtain ⟨places, u, hu, hput⟩ := run_items builds_valueAt hs h
    exact finish hu hput fun hm => nomatch htag.symm.trans (hmap hm)
  · next htag =>
    obtain ⟨places, u, hu, hput⟩ := run_items builds_pairAt hs h
    exact finish hu hput fun hm => nomatch htag.symm.trans (hmap hm)
  · next htag =>
    obtain ⟨places, u, hu, hput⟩ := run_items builds_pairAt hs h
    exact finish hu hput fun hm => nomatch htag.symm.trans (hmap hm)
  · next htag =>
    obtain ⟨pairs, u, hpairs, hput⟩ := run_bind_eq_ok_iff.mp h
    obtain ⟨hu, hsu, -⟩ := run_pairsAt hs hpairs
    exact finish ⟨hu, hsu⟩ hput fun hm => nomatch htag.symm.trans (hmap hm)
  · obtain ⟨pairs, u, hpairs, hput⟩ := run_bind_eq_ok_iff.mp h
    obtain ⟨hu, hsu, written, hgathers, rfl⟩ := run_pairsAt hs hpairs
    exact finish ⟨hu, hsu⟩ hput fun _ => ⟨written, hgathers, rfl⟩

/-- The induction is on the fuel, of which every container takes one. -/
theorem run_fillAll {fuel : Nat} (hs : Sound g [] s) (h : (fillAll fuel).run s = .ok ((), t)) :
    Sound g [] t ∧ Extends s t ∧ t.waiting = [] := by
  induction fuel generalizing s with
  | zero => cases h
  | succ fuel ih =>
    unfold fillAll at h
    rw [run_get_bind] at h
    split at h
    · next hwaiting =>
      obtain ⟨-, rfl⟩ := run_pure_eq_ok_iff.mp h
      exact ⟨hs, .refl s, hwaiting⟩
    · next id p rest hwaiting =>
      rw [run_modify_bind] at h
      obtain ⟨_, u, hfill, h⟩ := run_bind_eq_ok_iff.mp h
      obtain ⟨htaken, htake⟩ := hs.take hwaiting
      obtain ⟨hu, hsu⟩ := run_fill htaken hfill
      obtain ⟨ht, hut, hdone⟩ := ih hu h
      exact ⟨ht, htake.trans (hsu.trans hut), hdone⟩

/-- In the end all mappings that have a value are filled. -/
theorem run_document {root : NodeId} {place : Place}
    (h : (document root).run { graph := g } = .ok (place, t)) :
    t.placeOf? root = some place ∧
      ∀ {id p}, t.placeOf? id = some p → g.tag id = .map → Filled g t id p := by
  have hstart : Sound g [] { graph := g } :=
    ⟨.refl g, Nat.one_pos, nofun, nofun, .nil, nofun⟩
  unfold document at h
  obtain ⟨q, u, hroot, h⟩ := run_bind_eq_ok_iff.mp h
  obtain ⟨hu, -, hplace⟩ := run_valueAt hstart hroot
  rw [run_graph_bind] at h
  obtain ⟨_, v, hfill, h⟩ := run_bind_eq_ok_iff.mp h
  obtain ⟨rfl, rfl⟩ := run_pure_eq_ok_iff.mp h
  obtain ⟨hv, huv, hdone⟩ := run_fillAll hu hfill
  refine ⟨huv.placeOf? hplace, fun hp hmap => ?_⟩
  rcases hv.filled hp hmap with hwaits | ⟨-, hfilled⟩
  · rw [hdone] at hwaits
    cases hwaits
  · exact hfilled

end Building
end BuildDispatch.Yaml
