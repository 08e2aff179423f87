import BuildDispatch.Proofs.Session.Linkage
import BuildDispatch.Proofs.Session.Listing

/-!
# Instances

A session makes each operation ready once. From then on all names of its entry lead to the one
instance, whatever happens in between, and no other entry ever gets an instance with its number.
What is kept is never replaced, so the invariant is about the instances alone.

## Main statements

* `Session.instances_step`: all that a step does to the instances.
* `Session.Numbered.after`: the invariant, for a history of steps.
* `Session.find?_of_mem_calls`: what a call returned is still kept at the end.
* `instances_shared`: what the calls of every session come to.
-/

namespace BuildDispatch

open Run

/-! ### Operations by kind -/

/-- The operation that the kind of an entry selects, made from this entry. -/
inductive Operation.MadeFrom (e : Entry) : Operation → Prop
  | forward (hkind : e.kind = .forward) : MadeFrom e (.forward e)
  | helper {tool : HelperTool} (hkind : e.kind = .helper) (htool : e.helper = some tool) :
    MadeFrom e (.helper e tool)
  | info (hkind : e.kind = .info) : MadeFrom e (.info e)

theorem Operation.madeFrom_of_ofEntry {e : Entry} {o : Operation}
    (h : Operation.ofEntry e = .ok o) : o.MadeFrom e := by
  rcases Workshop.ofEntry_cases h with ⟨hkind, rfl⟩ | ⟨tool, hkind, htool, rfl⟩ | ⟨hkind, rfl⟩
  · exact .forward hkind
  · exact .helper hkind htool
  · exact .info hkind

namespace Session

variable {c : Setup} {s : Session} {name : Text} {e : Entry}

/-! ### Asking for an operation -/

theorem obtain_of_unknown (hname : c.catalogue.find? name = none) :
    s.obtain c name = (.error (.unknownOperation name c.catalogue.keys), s) := by
  unfold obtain
  rw [hname]

theorem obtain_of_notMem (hname : name ∉ c.catalogue.keys) (s : Session) :
    s.obtain c name = (.error (.unknownOperation name c.catalogue.keys), s) :=
  obtain_of_unknown ((Bindings.find?_eq_none_iff _ _).mpr hname)

theorem obtain_of_kept {inst : Instance} (hname : c.catalogue.find? name = some e)
    (hkept : s.instances.find? e.name = some inst) : s.obtain c name = (.ok inst, s) := by
  unfold obtain
  rw [hname]
  dsimp only
  rw [hkept]

theorem obtain_of_new {o : Operation} (hname : c.catalogue.find? name = some e)
    (hnew : s.instances.find? e.name = none) (ho : Operation.ofEntry e = .ok o) :
    s.obtain c name =
      (.ok ⟨s.instances.toList.length, o⟩,
        { s with instances :=
          s.instances.insert e.name ⟨s.instances.toList.length, o⟩ }) := by
  unfold obtain
  rw [hname]
  dsimp only
  rw [hnew]
  dsimp only
  rw [ho]

/-- Only the entry of a name counts. -/
theorem obtain_congr {a b : Text} (ha : c.catalogue.find? a = some e)
    (hb : c.catalogue.find? b = some e) (s : Session) : s.obtain c a = s.obtain c b := by
  unfold obtain
  rw [ha, hb]

theorem dispatch_congr {a b : Text} (ha : c.catalogue.find? a = some e)
    (hb : c.catalogue.find? b = some e) (s : Session) : s.dispatch c a = s.dispatch c b := by
  unfold dispatch
  rw [obtain_congr ha hb]

/-! ### Instances over time -/

/-- The name that a step asks an operation for, if it does. -/
def Step.asked : Step → Option Text
  | .dispatch name => some name
  | .get name => some name
  | .environmentFor name _ => some name
  | .command name _ => some name
  | .isAvailable name _ => some name
  | .execute name _ => some name
  | _ => none

theorem instances_resolveLibrary (c : Setup) (s : Session) :
    (s.resolveLibrary c).session.instances = s.instances := by
  unfold resolveLibrary
  dsimp only
  split <;> rfl

theorem instances_environmentFor (c : Setup) (s : Session) (o : Operation)
    (given : Option Resolution) : (s.environmentFor c o given).session.instances = s.instances := by
  unfold environmentFor
  split
  · cases given with
    | some r => rfl
    | none => exact instances_resolveLibrary c s
  · rfl

theorem instances_handOut (s : Session) (inst : Instance) :
    (s.handOut inst).session.instances = s.instances := by
  unfold handOut
  split <;> rfl

theorem instances_dispatch (c : Setup) (s : Session) (name : Text) :
    (s.dispatch c name).session.instances = (s.obtain c name).2.instances := by
  rcases hs : s.obtain c name with ⟨failure | inst, t⟩
  · rw [dispatch_of_error hs]
    rfl
  · rw [dispatch_of_ok hs, session_perform]

theorem instances_withOperation (c : Setup) (s : Session) (name : Text)
    {f : Session → Instance → Progress Answer}
    (hf : ∀ t inst, (f t inst).session.instances = t.instances) :
    (s.withOperation c name f).session.instances = (s.obtain c name).2.instances := by
  rcases hs : s.obtain c name with ⟨failure | inst, t⟩
  · rw [withOperation_of_error hs]
    rfl
  · rw [withOperation_of_ok hs, hf]

/-- A step does to the instances what asking for its operation does. -/
theorem instances_step (c : Setup) (s : Session) (st : Step) :
    (s.step c st).session.instances =
      match st.asked with
      | some name => (s.obtain c name).2.instances
      | none => s.instances := by
  cases st with
  | dispatch name => exact instances_dispatch c s name
  | resolveLibrary => exact instances_resolveLibrary c s
  | get name => exact instances_withOperation c s name instances_handOut
  | environmentFor name given =>
    exact instances_withOperation c s name fun t inst => instances_environmentFor c t _ given
  | command name args => exact instances_withOperation c s name fun _ _ => rfl
  | isAvailable name env => exact instances_withOperation c s name fun _ _ => rfl
  | execute name env => exact instances_withOperation c s name fun _ _ => rfl
  | _ => rfl

theorem instances_step_of_asked {st : Step} (h : st.asked = some name) :
    (s.step c st).session.instances = (s.obtain c name).2.instances := by
  rw [instances_step, h]

theorem instances_step_of_not_asked {st : Step} (h : st.asked = none) :
    (s.step c st).session.instances = s.instances := by
  rw [instances_step, h]

/-! ### The invariant -/

/-- The instances that are kept have numbers of their own, all of them below the next one. -/
structure Numbered (s : Session) : Prop where
  serial_lt : ∀ key inst, s.instances.find? key = some inst →
    inst.serial < s.instances.toList.length
  key_eq : ∀ a b inst inst', s.instances.find? a = some inst → s.instances.find? b = some inst' →
    inst.serial = inst'.serial → a = b

/-- What is kept under two names is one instance exactly if the names are the same. -/
theorem Numbered.eq_iff (h : s.Numbered) {a b : Text} {inst inst' : Instance}
    (ha : s.instances.find? a = some inst) (hb : s.instances.find? b = some inst') :
    (inst = inst' ↔ a = b) ∧ (inst.serial = inst'.serial ↔ inst = inst') := by
  have same : a = b → inst = inst' := by
    rintro rfl
    exact Option.some.inj (ha.symm.trans hb)
  have hkey := h.key_eq a b inst inst' ha hb
  exact ⟨⟨fun heq => hkey (congrArg Instance.serial heq), same⟩,
    ⟨fun hserial => same (hkey hserial), congrArg Instance.serial⟩⟩

/-- All that `s` keeps is kept in `t`, too. -/
def KeptIn (s t : Session) : Prop :=
  ∀ key inst, s.instances.find? key = some inst → t.instances.find? key = some inst

theorem numbered_start (w : World) (i : Invocation) :
    Numbered { world := w, invocation := i } where
  serial_lt key inst h := by simp at h
  key_eq a b inst inst' h := by simp at h

theorem Numbered.congr (h : s.Numbered) {t : Session} (ht : t.instances = s.instances) :
    t.Numbered where
  serial_lt := ht ▸ h.serial_lt
  key_eq := ht ▸ h.key_eq

section Insert

variable {key : Text} (hnew : s.instances.find? key = none) (o : Operation)

include hnew

theorem keptIn_insert (inst : Instance) :
    s.KeptIn { s with instances := s.instances.insert key inst } := by
  intro other found hfound
  have hne : other ≠ key := by
    rintro rfl
    cases hnew.symm.trans hfound
  exact (Bindings.find?_insert_of_ne _ _ hne).trans hfound

theorem Numbered.insert (h : s.Numbered) :
    Numbered { s with instances := s.instances.insert key ⟨s.instances.toList.length, o⟩ } := by
  have hlist := Bindings.toList_insert_of_notMem ((Bindings.find?_eq_none_iff _ _).mp hnew)
    (⟨s.instances.toList.length, o⟩ : Instance)
  -- What is found afterwards is the new instance, or an old one with a smaller number.
  constructor
  · intro a inst ha
    have hlength : (s.instances.insert key ⟨s.instances.toList.length, o⟩).toList.length =
        s.instances.toList.length + 1 := by
      rw [hlist, List.length_append, List.length_singleton]
    dsimp only
    rw [hlength]
    rcases Bindings.find?_insert_eq_some_iff.mp ha with ⟨-, rfl⟩ | ⟨-, hold⟩
    · exact Nat.lt_succ_self _
    · have := h.serial_lt a inst hold
      omega
  · intro a b inst inst' ha hb hserial
    rcases Bindings.find?_insert_eq_some_iff.mp ha with ⟨rfl, rfl⟩ | ⟨-, hold⟩ <;>
      rcases Bindings.find?_insert_eq_some_iff.mp hb with ⟨rfl, rfl⟩ | ⟨-, hold'⟩
    · rfl
    · exact absurd hserial (Nat.ne_of_gt (h.serial_lt b inst' hold'))
    · exact absurd hserial (Nat.ne_of_lt (h.serial_lt a inst hold))
    · exact h.key_eq a b inst inst' hold hold' hserial

end Insert

/-- Asking for an operation changes nothing, or it adds one instance under the next number. -/
theorem session_obtain (c : Setup) (s : Session) (name : Text) :
    (s.obtain c name).2 = s ∨
      ∃ key o, s.instances.find? key = none ∧ (s.obtain c name).2 =
        { s with instances := s.instances.insert key ⟨s.instances.toList.length, o⟩ } := by
  cases hname : c.catalogue.find? name with
  | none => exact .inl (congrArg Prod.snd (obtain_of_unknown hname))
  | some e =>
    cases hkept : s.instances.find? e.name with
    | some inst => exact .inl (congrArg Prod.snd (obtain_of_kept hname hkept))
    | none =>
      cases ho : Operation.ofEntry e with
      | ok o => exact .inr ⟨e.name, o, hkept, congrArg Prod.snd (obtain_of_new hname hkept ho)⟩
      | error failure =>
        left
        unfold obtain
        rw [hname]
        dsimp only
        rw [hkept]
        dsimp only
        rw [ho]

theorem KeptIn.refl (s : Session) : s.KeptIn s := fun _ _ h => h

theorem KeptIn.trans {t u : Session} (hst : s.KeptIn t) (htu : t.KeptIn u) : s.KeptIn u :=
  fun key inst h => htu key inst (hst key inst h)

theorem keptIn_obtain (c : Setup) (s : Session) (name : Text) :
    s.KeptIn (s.obtain c name).2 := by
  rcases session_obtain c s name with hsame | ⟨key, o, hnew, hadded⟩
  · rw [hsame]
    exact .refl s
  · rw [hadded]
    exact keptIn_insert hnew _

theorem Numbered.obtain (h : s.Numbered) (c : Setup) (name : Text) :
    (s.obtain c name).2.Numbered := by
  rcases session_obtain c s name with hsame | ⟨key, o, hnew, hadded⟩
  · rw [hsame]
    exact h
  · rw [hadded]
    exact h.insert hnew o

theorem keptIn_step (c : Setup) (s : Session) (st : Step) : s.KeptIn (s.step c st).session := by
  unfold KeptIn
  cases hasked : st.asked with
  | none =>
    rw [instances_step_of_not_asked hasked]
    exact KeptIn.refl s
  | some name =>
    rw [instances_step_of_asked hasked]
    exact keptIn_obtain c s name

theorem Numbered.step (h : s.Numbered) (c : Setup) (st : Step) :
    (s.step c st).session.Numbered := by
  cases hasked : st.asked with
  | none => exact h.congr (instances_step_of_not_asked hasked)
  | some name => exact (h.obtain c name).congr (instances_step_of_asked hasked)

theorem keptIn_after (c : Setup) (s : Session) (history : List Step) :
    s.KeptIn (s.after c history) := by
  induction history generalizing s with
  | nil => exact .refl s
  | cons st rest ih => exact (keptIn_step c s st).trans (ih _)

theorem Numbered.after (h : s.Numbered) (c : Setup) (history : List Step) :
    (s.after c history).Numbered := by
  induction history generalizing s with
  | nil => exact h
  | cons st rest ih => exact ih (h.step c st)

/-! ### Calls -/

/-- The names that operations were asked for by, with what was obtained, in order. -/
def calls (c : Setup) : Session → List Step → List (Text × Except Failure Instance)
  | _, [] => []
  | s, st :: rest =>
    (st.asked.toList.map fun name => (name, (s.obtain c name).1)) ++
      calls c (s.step c st).session rest

/-- Every call was made at some point of the history. -/
theorem exists_of_mem_calls {history : List Step} {result : Except Failure Instance}
    (h : (name, result) ∈ s.calls c history) :
    ∃ before st later, history = before ++ st :: later ∧ st.asked = some name ∧
      result = ((s.after c before).obtain c name).1 := by
  induction history generalizing s with
  | nil => cases h
  | cons st rest ih =>
    rw [calls] at h
    rcases List.mem_append.mp h with hnow | hlater
    · obtain ⟨asked, hasked, hpair⟩ := List.mem_map.mp hnow
      obtain ⟨rfl, rfl⟩ := Prod.mk.inj hpair
      exact ⟨[], st, rest, rfl, Option.mem_toList.mp hasked, rfl⟩
    · obtain ⟨before, st', later, rfl, hasked, hresult⟩ := ih hlater
      exact ⟨st :: before, st', later, rfl, hasked, hresult⟩

theorem eq_error_of_mem_calls {history : List Step} {result : Except Failure Instance}
    (h : (name, result) ∈ s.calls c history) (hname : name ∉ c.catalogue.keys) :
    result = .error (.unknownOperation name c.catalogue.keys) := by
  obtain ⟨before, st, later, -, -, hresult⟩ := exists_of_mem_calls h
  rw [hresult, obtain_of_notMem hname]

theorem mem_keys_of_mem_calls {history : List Step} {inst : Instance}
    (h : (name, .ok inst) ∈ s.calls c history) : name ∈ c.catalogue.keys := by
  by_contra hname
  cases eq_error_of_mem_calls h hname

section Ready

variable {i : Invocation} (hc : c.catalogue.Ready)

include hc

theorem Regular.obtain_known (h : s.Regular c i) (hname : c.catalogue.find? name = some e) :
    ∃ inst, (s.obtain c name).1 = .ok inst ∧ Operation.ofEntry e = .ok inst.operation ∧
      (s.obtain c name).2.instances.find? e.name = some inst := by
  obtain ⟨inst, kept, ho, hobtain⟩ := h.obtain_eq_ok hc hname
  refine ⟨inst, by rw [hobtain], ho, ?_⟩
  cases hkept : s.instances.find? e.name with
  | some old =>
    have hold := obtain_of_kept hname hkept
    obtain rfl : inst = old := Except.ok.inj (congrArg Prod.fst (hobtain.symm.trans hold))
    rw [hold]
    exact hkept
  | none =>
    have hnew := obtain_of_new hname hkept ho
    have hinst : inst = ⟨s.instances.toList.length, inst.operation⟩ :=
      Except.ok.inj (congrArg Prod.fst (hobtain.symm.trans hnew))
    rw [hnew, ← hinst]
    exact Bindings.find?_insert_self ..

/-- A call by the name of an entry returned an operation of this entry, and it is still kept. -/
theorem Regular.find?_of_mem_calls (h : s.Regular c i) {history : List Step}
    {result : Except Failure Instance} (hmem : (name, result) ∈ s.calls c history)
    (hname : c.catalogue.find? name = some e) :
    ∃ inst, result = .ok inst ∧ Operation.ofEntry e = .ok inst.operation ∧
      (s.after c history).instances.find? e.name = some inst := by
  obtain ⟨before, st, later, rfl, hasked, rfl⟩ := exists_of_mem_calls hmem
  obtain ⟨inst, hresult, ho, hfound⟩ := (h.after hc before).obtain_known hc hname
  refine ⟨inst, hresult, ho, ?_⟩
  rw [← instances_step_of_asked hasked] at hfound
  have hafter : s.after c (before ++ st :: later) =
      ((s.after c before).step c st).session.after c later := List.foldl_append ..
  rw [hafter]
  exact keptIn_after c _ later e.name inst hfound

/-- Two calls returned one instance exactly if they were by names of one entry. -/
theorem Regular.eq_iff_of_mem_calls (h : s.Regular c i) (hs : s.Numbered) {history : List Step}
    {a b : Text} {inst inst' : Instance} (ha : (a, .ok inst) ∈ s.calls c history)
    (hb : (b, .ok inst') ∈ s.calls c history) :
    (inst = inst' ↔ c.catalogue.find? a = c.catalogue.find? b) ∧
      (inst.serial = inst'.serial ↔ inst = inst') := by
  obtain ⟨e, hfound⟩ := Bindings.exists_find?_of_mem_keys (mem_keys_of_mem_calls ha)
  obtain ⟨f, hfound'⟩ := Bindings.exists_find?_of_mem_keys (mem_keys_of_mem_calls hb)
  obtain ⟨_, hresult, -, hkept⟩ := h.find?_of_mem_calls hc ha hfound
  obtain rfl := Except.ok.inj hresult
  obtain ⟨_, hresult', -, hkept'⟩ := h.find?_of_mem_calls hc hb hfound'
  obtain rfl := Except.ok.inj hresult'
  have same := (hs.after c history).eq_iff hkept hkept'
  refine ⟨same.1.trans ?_, same.2⟩
  rw [hfound, hfound', Option.some.injEq]
  constructor
  · intro hname
    have hfirst := hc.find?_name hfound
    rw [hname, hc.find?_name hfound'] at hfirst
    exact (Option.some.inj hfirst).symm
  · exact congrArg Entry.name

end Ready

end Session

/-- Whatever happens in a session over a loaded configuration, every name of the catalogue leads to
an operation made from its entry, and two names lead to one instance exactly if they belong to one
entry. Any other name fails and changes nothing, and a dispatch does not see by which of its names
an entry was called. -/
theorem instances_shared {files : ConfigFiles} {directory : Text} {config : Configuration}
    (hload : files.load directory = .ok config) {c : Setup}
    (hc : c.catalogue = config.catalogue) (w : World) (i : Invocation)
    (history : List Session.Step) :
    let start : Session := { world := w, invocation := i }
    (∀ name result, (name, result) ∈ start.calls c history →
      (name ∈ config.catalogue.keys → ∃ e inst, config.catalogue.find? name = some e ∧
        name ∈ e.names ∧ result = .ok inst ∧ inst.operation.MadeFrom e) ∧
      (name ∉ config.catalogue.keys →
        result = .error (.unknownOperation name config.catalogue.keys))) ∧
    (∀ a b inst inst', (a, .ok inst) ∈ start.calls c history →
      (b, .ok inst') ∈ start.calls c history →
      (inst = inst' ↔ ∃ e ∈ config.catalogue.entries, a ∈ e.names ∧ b ∈ e.names) ∧
      (inst.serial = inst'.serial ↔ inst = inst')) ∧
    (∀ (s : Session) (name : Text), name ∉ config.catalogue.keys →
      let failure := Failure.unknownOperation name config.catalogue.keys
      s.obtain c name = (.error failure, s) ∧ s.dispatch c name = s.still (.error failure)) ∧
    ∀ (s : Session), ∀ e ∈ config.catalogue.entries, ∀ a ∈ e.names, ∀ b ∈ e.names,
      s.obtain c a = s.obtain c b ∧ s.dispatch c a = s.dispatch c b := by
  intro start
  rw [← hc]
  have ready : c.catalogue.Ready := hc ▸ ConfigFiles.ready_of_load hload
  have regular : start.Regular c i := Session.regular_start c w i
  obtain ⟨es, hlists, -⟩ := id ready
  rw [hlists.entries_eq]
  refine ⟨fun name result hmem => ⟨fun hname => ?_, Session.eq_error_of_mem_calls hmem⟩, ?_, ?_, ?_⟩
  · obtain ⟨e, -, hfound, hnames⟩ := hlists.exists_entry hname
    obtain ⟨inst, hresult, ho, -⟩ := regular.find?_of_mem_calls ready hmem hfound
    exact ⟨e, inst, hfound, hnames, hresult, Operation.madeFrom_of_ofEntry ho⟩
  · intro a b inst inst' ha hb
    have same := regular.eq_iff_of_mem_calls ready (Session.numbered_start w i) ha hb
    rw [hlists.find?_eq_iff (Session.mem_keys_of_mem_calls ha) (Session.mem_keys_of_mem_calls hb)]
      at same
    exact same
  · intro s name hname failure
    have hobtain := Session.obtain_of_notMem hname s
    exact ⟨hobtain, Session.dispatch_of_error hobtain⟩
  · intro s e he a ha b hb
    have hfound : c.catalogue.find? a = some e := hlists.find?_eq_some_iff.mpr ⟨he, ha⟩
    have hfound' : c.catalogue.find? b = some e := hlists.find?_eq_some_iff.mpr ⟨he, hb⟩
    exact ⟨Session.obtain_congr hfound hfound' s, Session.dispatch_congr hfound hfound' s⟩

/-- Calls by both names of the build, by that of the audit, and by one that means nothing. -/
def someCalls : List Session.Step :=
  [.get "b", .dispatch "nothing", .setVariable "LANG" "C", .dispatch "audit", .get "build"]

theorem someCalls_shared : ∃ config, ConfigFiles.small.load "etc" = .ok config ∧
    ∃ failure audit build again,
      ({ world := .nowhere, invocation := config.invocation } : Session).calls
          (config.setup .text) someCalls =
        ([("b", .ok build), ("nothing", .error failure), ("audit", .ok audit),
          ("build", .ok again)] : List (Text × Except Failure Instance)) ∧
      failure = .unknownOperation "nothing" config.catalogue.keys ∧ build = again ∧
      build ≠ audit := by
  obtain ⟨config, hload, hkeys, hsame, hdiffer, failure, audit, build, again, hcalls⟩ :
      ∃ config, ConfigFiles.small.load "etc" = .ok config ∧
        config.catalogue.keys = (["build", "b", "audit"] : List Text) ∧
        (∃ e ∈ config.catalogue.entries, ("b" : Text) ∈ e.names ∧ ("build" : Text) ∈ e.names) ∧
        (¬ ∃ e ∈ config.catalogue.entries, ("b" : Text) ∈ e.names ∧ ("audit" : Text) ∈ e.names) ∧
        ∃ failure audit build again,
          ({ world := .nowhere, invocation := config.invocation } : Session).calls
              (config.setup .text) someCalls =
            ([("b", .ok build), ("nothing", .error failure), ("audit", .ok audit),
              ("build", .ok again)] : List (Text × Except Failure Instance)) :=
    ⟨_, rfl, rfl, ⟨_, List.mem_cons_self, by decide, by decide⟩, by decide, _, _, _, _, rfl⟩
  refine ⟨config, hload, failure, audit, build, again, hcalls, ?_⟩
  have shared := instances_shared hload (rfl : (config.setup .text).catalogue = _) .nowhere
    config.invocation someCalls
  dsimp only at shared
  rw [hcalls] at shared
  obtain ⟨hresults, hinstances, -⟩ := shared
  have hnothing := (hresults "nothing" (.error failure) (by simp)).2 (by rw [hkeys]; decide)
  exact ⟨Except.error.inj hnothing, (hinstances _ _ build again (by simp) (by simp)).1.mpr hsame,
    fun heq => hdiffer ((hinstances _ _ build audit (by simp) (by simp)).1.mp heq)⟩

end BuildDispatch
