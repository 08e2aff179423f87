import Mathlib.Data.List.Forall2
import Mathlib.Data.List.Infix
import BuildDispatch.Proofs.Config.Fields
import BuildDispatch.Yaml.Meaning

/-!
# Preparing mappings

What becomes of a graph while its mappings are prepared. Tags change from those of defaults to those
of texts alone, and a mapping keeps its own entries: they stand behind those that are merged into
it, in their order, however often it is prepared and whatever refers to whatever.

## Main statements

* `Graph.own`: the entries that a mapping has by itself.
* `Graph.Prepares`: what a graph has in common with the one that it was.
* `Building.run_prepare`: preparing a mapping, which has no merge keys then.
-/

namespace BuildDispatch.Yaml

section Forall₂

variable {α β : Type} {R : α → β → Prop} {l before after : List α} {x : α} {l' : List β}

theorem exists_of_forall₂_of_mem (h : List.Forall₂ R l l') {y : β} (hy : y ∈ l') :
    ∃ x ∈ l, R x y := by
  obtain ⟨i, hi, rfl⟩ := List.getElem_of_mem hy
  exact ⟨_, List.getElem_mem _, h.get (h.length_eq ▸ hi) hi⟩

theorem exists_split_of_forall₂ (h : List.Forall₂ R (before ++ x :: after) l') :
    ∃ front y back, l' = front ++ y :: back ∧ R x y ∧ List.Forall₂ R after back := by
  have hdrop := List.forall₂_drop_append l' before (x :: after) h.flip
  obtain ⟨y, back, hy, hback, hl⟩ := List.forall₂_cons_right_iff.mp hdrop
  refine ⟨l'.take before.length, y, back, ?_, hy, hback.flip⟩
  rw [← hl, List.take_append_drop]

end Forall₂

namespace Graph

variable {g g' g'' : Graph} {id other : NodeId}

/-! ### Nodes that are put in place -/

theorem look_put (g : Graph) (id : NodeId) (n : Node) (other : NodeId) :
    (g.put id n).look other = if other = id ∧ id < g.nodes.size then n else g.look other := by
  by_cases h : other = id
  · subst h
    by_cases hlt : other < g.nodes.size
    · rw [if_pos ⟨rfl, hlt⟩, look_put_self g n hlt]
    · simp [put, look, hlt]
  · rw [if_neg (fun hand => h hand.1), look_put_of_ne g n h]

@[simp] theorem tag_setContent (g : Graph) (id : NodeId) (content : Content) (other : NodeId) :
    (g.setContent id content).tag other = g.tag other := by
  rw [tag, setContent, look_put]
  split
  · next h => rw [h.1]; rfl
  · rfl

theorem entries_setContent (g : Graph) (id : NodeId) (entries : List (NodeId × NodeId))
    (other : NodeId) : (g.setContent id (.mapping entries)).entries other =
      if other = id ∧ id < g.nodes.size then entries else g.entries other := by
  unfold Graph.entries content setContent
  rw [look_put]
  by_cases h : other = id ∧ id < g.nodes.size
  · rw [if_pos h, if_pos h]
  · rw [if_neg h, if_neg h]

@[simp] theorem entries_setTag (g : Graph) (id : NodeId) (t : Tag) (other : NodeId) :
    (g.setTag id t).entries other = g.entries other := by
  unfold Graph.entries content setTag
  rw [look_put]
  by_cases h : other = id ∧ id < g.nodes.size
  · rw [if_pos h, h.1]
  · rw [if_neg h]

theorem tag_setTag (g : Graph) (id : NodeId) (t : Tag) (other : NodeId) :
    (g.setTag id t).tag other = if other = id ∧ id < g.nodes.size then t else g.tag other := by
  rw [tag, setTag, look_put]
  split
  · rfl
  · rfl

/-! ### Entries of its own -/

/-- The entries that a mapping has by itself: those that merge nothing. -/
def own (g : Graph) (id : NodeId) : List (NodeId × NodeId) :=
  (g.entries id).filter fun entry => g.tag entry.1 ≠ .merge

/-- What a graph has in common with the one that it was before mappings were prepared. -/
structure Prepares (g g' : Graph) : Prop where
  tag : ∀ id, g'.tag id = g.tag id ∨ (g.tag id = .default ∧ g'.tag id = .str)
  own : ∀ id, g.own id <:+ g'.own id

namespace Prepares

theorem refl (g : Graph) : g.Prepares g := ⟨fun _ => .inl rfl, fun _ => List.suffix_rfl⟩

theorem trans (h : g.Prepares g') (h' : g'.Prepares g'') : g.Prepares g'' where
  tag id := by
    rcases h.tag id with h₁ | ⟨h₁, h₂⟩
    · rw [← h₁]
      exact h'.tag id
    · rcases h'.tag id with h₃ | ⟨h₃, -⟩
      · exact .inr ⟨h₁, h₃.trans h₂⟩
      · cases h₂.symm.trans h₃
  own id := (h.own id).trans (h'.own id)

theorem merge_iff (h : g.Prepares g') (id : NodeId) : g'.tag id = .merge ↔ g.tag id = .merge := by
  rcases h.tag id with h₁ | ⟨h₁, h₂⟩
  · rw [h₁]
  · simp [h₁, h₂]

theorem tag_eq_map (h : g.Prepares g') (hmap : g.tag id = .map) : g'.tag id = .map := by
  rcases h.tag id with h₁ | ⟨h₁, -⟩
  · exact h₁.trans hmap
  · cases hmap.symm.trans h₁

end Prepares

/-- No entry merges anything. -/
def Plain (g : Graph) (entries : List (NodeId × NodeId)) : Prop :=
  ∀ entry ∈ entries, g.tag entry.1 ≠ .merge

theorem plain_nil (g : Graph) : g.Plain [] := fun _ hentry => absurd hentry List.not_mem_nil

theorem Plain.append {entries others : List (NodeId × NodeId)} (h : g.Plain entries)
    (h' : g.Plain others) : g.Plain (entries ++ others) :=
  List.forall_mem_append.mpr ⟨h, h'⟩

theorem Plain.of_prepares {entries : List (NodeId × NodeId)} (h : g.Plain entries)
    (hg : g.Prepares g') : g'.Plain entries :=
  fun entry hentry => (not_congr (hg.merge_iff entry.1)).mpr (h entry hentry)

theorem own_of_plain (h : g.Plain (g.entries id)) : g.own id = g.entries id :=
  List.filter_eq_self.mpr fun entry hentry => decide_eq_true (h entry hentry)

theorem prepares_setTag (h : g.tag id = .default) : g.Prepares (g.setTag id .str) := by
  have htag (other : NodeId) : (g.setTag id .str).tag other = g.tag other ∨
      (g.tag other = .default ∧ (g.setTag id .str).tag other = .str) := by
    rw [tag_setTag]
    split
    · next hid => exact .inr ⟨hid.1 ▸ h, rfl⟩
    · exact .inl rfl
  refine ⟨htag, fun other => ?_⟩
  have hown : (g.setTag id .str).own other = g.own other := by
    unfold Graph.own
    rw [entries_setTag]
    refine List.filter_congr fun entry _ => ?_
    rcases htag entry.1 with h₁ | ⟨h₁, h₂⟩
    · rw [h₁]
    · simp [h₁, h₂]
  rw [hown]

/-- Entries may change in front of those that a mapping has by itself, and merge keys go. -/
theorem prepares_setContent {entries : List (NodeId × NodeId)}
    (h : g.own id <:+ entries.filter fun entry => g.tag entry.1 ≠ .merge) :
    g.Prepares (g.setContent id (.mapping entries)) where
  tag other := .inl (g.tag_setContent id _ other)
  own other := by
    unfold Graph.own
    simp only [tag_setContent, entries_setContent]
    split
    · next hid => rw [hid.1]; exact h
    · exact List.suffix_rfl

end Graph

namespace Building

variable {α β : Type} {s t : Progress}

/-! ### Steps of a building -/

theorem run_bind_eq_ok_iff {x : Building α} {f : α → Building β} {b : β} :
    (x >>= f).run s = .ok (b, t) ↔ ∃ a u, x.run s = .ok (a, u) ∧ (f a).run u = .ok (b, t) := by
  rw [StateT.run_bind, bind_eq_ok_iff, Prod.exists]

@[simp] theorem run_graph_bind (f : Graph → Building β) :
    (graph >>= f).run s = (f s.graph).run s := rfl

@[simp] theorem run_setGraph_bind (g : Graph) (f : Unit → Building β) :
    (setGraph g >>= f).run s = (f ()).run { s with graph := g } := rfl

theorem run_pure_eq_ok_iff {a b : α} :
    (pure a : Building α).run s = .ok (b, t) ↔ a = b ∧ s = t := by
  change Except.ok (a, s) = .ok (b, t) ↔ _
  simp

/-- What each step does to a state and the item it is for, said of all steps at once. -/
theorem run_mapM {f : α → Building β} (inv : Progress → Prop) (P : Progress → Progress → Prop)
    (Q : Progress → α → β → Prop) (hrefl : ∀ s, P s s)
    (htrans : ∀ {s t u}, P s t → P t u → P s u)
    (hmono : ∀ {s t a b}, P s t → Q s a b → Q t a b)
    (hstep : ∀ {a s b t}, inv s → (f a).run s = .ok (b, t) → inv t ∧ P s t ∧ Q t a b)
    {l : List α} {bs : List β} (hs : inv s) (h : (l.mapM f).run s = .ok (bs, t)) :
    inv t ∧ P s t ∧ List.Forall₂ (Q t) l bs := by
  induction l generalizing s bs with
  | nil =>
    obtain ⟨rfl, rfl⟩ := run_pure_eq_ok_iff.mp h
    exact ⟨hs, hrefl s, .nil⟩
  | cons a rest ih =>
    rw [List.mapM_cons] at h
    obtain ⟨b, u, hfirst, h⟩ := run_bind_eq_ok_iff.mp h
    obtain ⟨others, v, hrest, h⟩ := run_bind_eq_ok_iff.mp h
    obtain ⟨rfl, rfl⟩ := run_pure_eq_ok_iff.mp h
    obtain ⟨hu, hsu, hb⟩ := hstep hs hfirst
    obtain ⟨hv, huv, hothers⟩ := ih hu hrest
    exact ⟨hv, htrans hsu huv, .cons (hmono huv hb) hothers⟩

/-! ### Preparing -/

/-- The graph is the only part of a state that is different, and it is a prepared one. -/
def Prepared (s t : Progress) : Prop :=
  ∃ g, s.graph.Prepares g ∧ t = { s with graph := g }

theorem Prepared.refl (s : Progress) : Prepared s s := ⟨s.graph, .refl _, rfl⟩

theorem Prepared.trans {u : Progress} (h : Prepared s t) (h' : Prepared t u) : Prepared s u := by
  obtain ⟨g, hg, rfl⟩ := h
  obtain ⟨g', hg', rfl⟩ := h'
  exact ⟨g', hg.trans hg', rfl⟩

theorem Prepared.prepares (h : Prepared s t) : s.graph.Prepares t.graph := by
  obtain ⟨g, hg, rfl⟩ := h
  exact hg

theorem textDefaults_prepares (g : Graph) (entries : List (NodeId × NodeId)) :
    g.Prepares (textDefaults g entries) ∧
      ∀ id, (textDefaults g entries).entries id = g.entries id := by
  induction entries generalizing g with
  | nil => exact ⟨.refl g, fun _ => rfl⟩
  | cons entry rest ih =>
    unfold textDefaults
    rw [List.foldl_cons]
    split
    · next h =>
      obtain ⟨hprepares, hentries⟩ := ih (g.setTag entry.1 .str)
      refine ⟨(Graph.prepares_setTag h).trans hprepares, fun id => ?_⟩
      exact (hentries id).trans (g.entries_setTag ..)
    · exact ih g

theorem plain_of_splitAtMerge {g : Graph} {entries : List (NodeId × NodeId)}
    (h : splitAtMerge g entries = none) : g.Plain entries := by
  induction entries with
  | nil => exact nofun
  | cons entry rest ih =>
    unfold splitAtMerge at h
    split at h
    · cases h
    · next hentry =>
      exact List.forall_mem_cons.mpr ⟨hentry, ih (Option.map_eq_none_iff.mp h)⟩

theorem eq_of_splitAtMerge {g : Graph} {entries before after : List (NodeId × NodeId)}
    {value : NodeId} (h : splitAtMerge g entries = some (before, value, after)) :
    ∃ key, g.tag key = .merge ∧ entries = before ++ (key, value) :: after := by
  induction entries generalizing before with
  | nil => cases h
  | cons entry rest ih =>
    unfold splitAtMerge at h
    split at h
    · next hentry =>
      cases h
      exact ⟨entry.1, hentry, rfl⟩
    · obtain ⟨⟨front, found, back⟩, hrest, heq⟩ := Option.map_eq_some_iff.mp h
      cases heq
      obtain ⟨key, hkey, rfl⟩ := ih hrest
      exact ⟨key, hkey, rfl⟩

/-- A function that prepares mappings leaves the one that it is for without merge keys. -/
def KeepsOwn (prepareMapping : NodeId → Building Unit) : Prop :=
  ∀ {id s t}, (prepareMapping id).run s = .ok ((), t) →
    Prepared s t ∧ t.graph.Plain (t.graph.entries id)

section Merged

variable {prepareMapping : NodeId → Building Unit} (hprepare : KeepsOwn prepareMapping)
  {id : NodeId} {entries : List (NodeId × NodeId)}

include hprepare

theorem run_entriesAfter (h : (entriesAfter prepareMapping id).run s = .ok (entries, t)) :
    Prepared s t ∧ t.graph.Plain entries := by
  unfold entriesAfter at h
  rw [run_graph_bind] at h
  split at h
  · obtain ⟨_, u, hrun, h⟩ := run_bind_eq_ok_iff.mp h
    rw [run_graph_bind, run_pure_eq_ok_iff] at h
    obtain ⟨rfl, rfl⟩ := h
    exact hprepare hrun
  · cases h

theorem run_mergedEntries (h : (mergedEntries prepareMapping id).run s = .ok (entries, t)) :
    Prepared s t ∧ t.graph.Plain entries := by
  unfold mergedEntries at h
  rw [run_graph_bind] at h
  split at h
  · next items _ =>
    obtain ⟨parts, u, hparts, h⟩ := run_bind_eq_ok_iff.mp h
    obtain ⟨rfl, rfl⟩ := run_pure_eq_ok_iff.mp h
    obtain ⟨-, hprepared, hplain⟩ := run_mapM (fun _ => True) Prepared
      (fun t _ part => t.graph.Plain part) Prepared.refl Prepared.trans
      (fun hst hplain => hplain.of_prepares hst.prepares)
      (fun _ hrun => ⟨trivial, run_entriesAfter hprepare hrun⟩) trivial hparts
    refine ⟨hprepared, fun entry hentry => ?_⟩
    obtain ⟨part, hpart, hmem⟩ := List.mem_flatten.mp hentry
    obtain ⟨_, -, hall⟩ := exists_of_forall₂_of_mem hplain (List.mem_reverse.mp hpart)
    exact hall entry hmem
  · exact run_entriesAfter hprepare h

end Merged

/-- What is merged into a mapping comes in front of its own entries. -/
theorem prepares_merged {g : Graph} {merged : List (NodeId × NodeId)} (hmerged : g.Plain merged)
    {id : NodeId} (hentries : g.Plain (g.entries id)) :
    let prepared := textDefaults g (g.entries id)
    let g' := prepared.setContent id (.mapping (merged ++ prepared.entries id))
    g.Prepares g' ∧ g'.Plain (g'.entries id) := by
  intro prepared g'
  obtain ⟨hdefaults, hsame⟩ := textDefaults_prepares g (g.entries id)
  have hprepares : g.Prepares g' := by
    refine hdefaults.trans (Graph.prepares_setContent ?_)
    rw [List.filter_append]
    exact List.suffix_append ..
  refine ⟨hprepares, ?_⟩
  have hmem : ∀ entry ∈ g'.entries id, entry ∈ merged ++ g.entries id := by
    intro entry hentry
    rw [Graph.entries_setContent] at hentry
    split at hentry
    · rwa [hsame] at hentry
    · rw [hsame] at hentry
      exact List.mem_append_right _ hentry
  intro entry hentry
  exact (hmerged.append hentries).of_prepares hprepares entry (hmem entry hentry)

/-- A merge key goes, and nothing else. -/
theorem prepares_withoutMerge {g : Graph} {id key value : NodeId}
    {before after : List (NodeId × NodeId)} (hkey : g.tag key = .merge)
    (hentries : g.entries id = before ++ (key, value) :: after) :
    g.Prepares ((textDefaults g before).setContent id (.mapping (before ++ after))) := by
  obtain ⟨hdefaults, hsame⟩ := textDefaults_prepares g before
  refine hdefaults.trans (Graph.prepares_setContent ?_)
  have hmerge := (hdefaults.merge_iff key).mpr hkey
  have hown : (textDefaults g before).own id = (before ++ after).filter fun entry =>
      (textDefaults g before).tag entry.1 ≠ .merge := by
    rw [Graph.own, hsame, hentries]
    simp [hmerge]
  rw [hown]

/-- The induction is on the fuel, of which every merge key that goes takes one. -/
theorem run_prepareFrom {fuel : Nat} {merged : List (NodeId × NodeId)} {id : NodeId}
    (hmerged : s.graph.Plain merged) (h : (prepareFrom fuel merged id).run s = .ok ((), t)) :
    Prepared s t ∧ t.graph.Plain (t.graph.entries id) := by
  induction fuel generalizing merged id s t with
  | zero => cases h
  | succ fuel ih =>
    unfold prepareFrom at h
    rw [run_graph_bind] at h
    split at h
    · next hsplit =>
      cases h
      obtain ⟨hprepares, hplain⟩ := prepares_merged hmerged (plain_of_splitAtMerge hsplit)
      exact ⟨⟨_, hprepares, rfl⟩, hplain⟩
    · next before value after hsplit =>
      obtain ⟨key, hkey, hentries⟩ := eq_of_splitAtMerge hsplit
      rw [run_setGraph_bind] at h
      obtain ⟨found, u, hfound, h⟩ := run_bind_eq_ok_iff.mp h
      have keeps : KeepsOwn (prepareFrom fuel []) := fun hrun => ih (Graph.plain_nil _) hrun
      have hfirst : Prepared s _ := ⟨_, prepares_withoutMerge hkey hentries, rfl⟩
      obtain ⟨hmerging, hplain⟩ := run_mergedEntries keeps hfound
      have hsu := hfirst.trans hmerging
      obtain ⟨hrest, hdone⟩ := ih ((hmerged.of_prepares hsu.prepares).append hplain) h
      exact ⟨hsu.trans hrest, hdone⟩

/-- A mapping that is prepared has no merge keys left, and its own entries come last. -/
theorem run_prepare {id : NodeId} (h : (prepare id).run s = .ok ((), t)) :
    Prepared s t ∧ t.graph.Plain (t.graph.entries id) := by
  unfold prepare at h
  rw [run_graph_bind] at h
  exact run_prepareFrom (Graph.plain_nil _) h

end Building
end BuildDispatch.Yaml
