import Mathlib.Data.List.Forall2
import Mathlib.Data.List.Nodup
import BuildDispatch.Proofs.Options.Read

/-!
# Arguments in any order

A command line that is written out in parts, an operation and some options, each option by one of
its names and each part once, asks for what its parts ask for. The order of the parts says nothing,
nor does the choice between the names of an option or between the two places for its value.

## Main definitions

* `Part`, `Spelling`: what a command line consists of, and how that is written.
* `demand`: what some parts ask for.

## Main statements

* `read_of_spells`: what a command line is read as that spells some parts.
* `demand_of_perm`: the same parts in another order ask for the same.
-/

namespace BuildDispatch.Options

/-! ### Parts -/

inductive Part
  | operation (name : Text)
  | option (s : Switch) (value : Option Text)

namespace Part

/-- What a part is about; `none` stands for the operation. -/
def topic : Part → Option Action
  | operation _ => none
  | option s _ => some s.action

/-- The operation is one of the choices and does not look like an option. An option other than the
one for help has a value if it takes one, and the value does not look like an option. -/
def WellFormed (choices : List Text) : Part → Prop
  | operation name => name ∈ choices ∧ name ≠ [] ∧ name.head? ≠ some (.char '-')
  | option s value => s ∈ switches ∧ s.action ≠ .help ∧ value.isSome = s.value.isSome ∧
      ∀ v ∈ value, v.head? ≠ some (.char '-')

instance (choices : List Text) : (part : Part) → Decidable (part.WellFormed choices)
  | operation _ => inferInstanceAs (Decidable (_ ∧ _ ∧ _))
  | option .. => inferInstanceAs (Decidable (_ ∧ _ ∧ _ ∧ _))

end Part

/-- How a part may be written. -/
inductive Spelling : Part → List Text → Prop
  | operation (name : Text) : Spelling (.operation name) [name]
  | alone {s : Switch} {name : Text} (hname : name ∈ s.names) :
    Spelling (.option s none) [name]
  | apart {s : Switch} {name : Text} (hname : name ∈ s.names) (value : Text) :
    Spelling (.option s (some value)) [name, value]
  | joined {s : Switch} {name : Text} (hname : name ∈ s.names) (value : Text) :
    Spelling (.option s (some value)) [name ++ .char '=' :: value]

/-- The arguments are the parts, one after the other, in some spelling. -/
def Spells (parts : List Part) (arguments : List Text) : Prop :=
  ∃ written, List.Forall₂ Spelling parts written ∧ arguments = written.flatten

/-! ### Telling words from options -/

section Classify

variable {s : Switch} {name : Text}

theorem switchNamed?_of_mem (hs : s ∈ switches) (hname : name ∈ s.names) :
    switchNamed? name = some s := by
  have hall : ∀ s ∈ switches, ∀ name ∈ s.names, switchNamed? name = some s := by decide +kernel
  exact hall s hs name hname

theorem head?_of_mem_names (hs : s ∈ switches) (hname : name ∈ s.names) :
    name.head? = some (.char '-') := by
  have hall : ∀ s ∈ switches, ∀ name ∈ s.names, name.head? = some (.char '-') := by decide
  exact hall s hs name hname

theorem ne_twoDashes_of_mem_names (hs : s ∈ switches) (hname : name ∈ s.names) :
    name ≠ twoDashes := by
  have hall : ∀ s ∈ switches, ∀ name ∈ s.names, name ≠ twoDashes := by decide
  exact hall s hs name hname

theorem equals_notMem_names (hs : s ∈ switches) (hname : name ∈ s.names) :
    .char '=' ∉ name := by
  have hall : ∀ s ∈ switches, ∀ name ∈ s.names, .char '=' ∉ name := by decide
  exact hall s hs name hname

theorem switchNamed?_of_equals {argument : Text} (h : .char '=' ∈ argument) :
    switchNamed? argument = none := by
  have hall : ∀ entry ∈ namedSwitches, .char '=' ∉ entry.1 := by decide
  rw [switchNamed?, Option.map_eq_none_iff, List.find?_eq_none]
  intro entry hentry heq
  exact hall entry hentry (eq_of_beq heq ▸ h)

theorem splitEquals_append (hname : .char '=' ∉ name) (value : Text) :
    splitEquals (name ++ .char '=' :: value) = some (name, value) := by
  have hother : ∀ c ∈ name, (decide (c ≠ .char '=')) = true := fun c hc =>
    decide_eq_true fun heq => hname (heq ▸ hc)
  unfold splitEquals
  dsimp only
  rw [List.dropWhile_append_of_pos hother, List.takeWhile_append_of_pos hother]
  simp

theorem classify_of_word {argument : Text} (h : argument.head? ≠ some (.char '-')) :
    classify argument = .ok (.word argument) := if_pos h

theorem classify_of_name (hs : s ∈ switches) (hname : name ∈ s.names) :
    classify name = .ok (.option ⟨some s, name, none, name⟩) := by
  unfold classify
  rw [if_neg (not_not.mpr (head?_of_mem_names hs hname)), switchNamed?_of_mem hs hname]

theorem classify_of_joined (hs : s ∈ switches) (hname : name ∈ s.names) (value : Text) :
    classify (name ++ .char '=' :: value) =
      .ok (.option ⟨some s, name, some value, name ++ .char '=' :: value⟩) := by
  have hhead : (name ++ .char '=' :: value).head? = some (.char '-') := by
    rw [List.head?_append, head?_of_mem_names hs hname, Option.some_or]
  have hlength : (name ++ .char '=' :: value).length ≠ 1 := by
    have hne : name ≠ [] := by
      rintro rfl
      cases head?_of_mem_names hs hname
    have := List.length_pos_iff.mpr hne
    rw [List.length_append, List.length_cons]
    omega
  have hfull : fullMention? (name ++ .char '=' :: value) =
      some ⟨some s, name, some value, name ++ .char '=' :: value⟩ := by
    rw [fullMention?, splitEquals_append (equals_notMem_names hs hname)]
    simp [switchNamed?_of_mem hs hname]
  unfold classify
  rw [if_neg (not_not.mpr hhead), switchNamed?_of_equals (by simp)]
  dsimp only
  rw [if_neg hlength, hfull]

end Classify

/-- How a part comes out when words are told from options. -/
inductive Items : Part → List Item → Prop
  | operation (name : Text) : Items (.operation name) [.word name]
  | alone (s : Switch) (name argument : Text) :
    Items (.option s none) [.option ⟨some s, name, none, argument⟩]
  | apart (s : Switch) (name value argument : Text) :
    Items (.option s (some value)) [.option ⟨some s, name, none, argument⟩, .word value]
  | joined (s : Switch) (name value argument : Text) :
    Items (.option s (some value)) [.option ⟨some s, name, some value, argument⟩]

theorem Items.ne_separator {part : Part} {items : List Item} (h : Items part items) :
    ∀ item ∈ items, item ≠ .separator := by
  cases h <;> simp

theorem itemize_cons {argument : Text} {item : Item} (hdashes : argument ≠ twoDashes)
    (h : classify argument = .ok item) (rest : List Text) :
    itemize (argument :: rest) = (itemize rest).map fun items => item :: items := by
  rw [itemize]
  change (if argument = twoDashes then _ else _) = _
  rw [if_neg hdashes, h]
  rfl

theorem ne_twoDashes_of_head? {argument : Text} (h : argument.head? ≠ some (.char '-')) :
    argument ≠ twoDashes := by
  rintro rfl
  exact h rfl

theorem Spelling.exists_items {choices : List Text} {part : Part} {written : List Text}
    (h : Spelling part written) (hpart : part.WellFormed choices) :
    ∃ items, Items part items ∧
      ∀ rest, itemize (written ++ rest) = (itemize rest).map fun more => items ++ more := by
  cases h with
  | operation name =>
    obtain ⟨-, -, hhead⟩ := hpart
    exact ⟨_, .operation name, itemize_cons (ne_twoDashes_of_head? hhead) (classify_of_word hhead)⟩
  | @alone s name hname =>
    obtain ⟨hs, -⟩ := hpart
    exact ⟨_, .alone s name name,
      itemize_cons (ne_twoDashes_of_mem_names hs hname) (classify_of_name hs hname)⟩
  | @apart s name hname value =>
    obtain ⟨hs, -, -, hvalue⟩ := hpart
    have hhead := hvalue value rfl
    refine ⟨_, .apart s name value name, fun rest => ?_⟩
    rw [List.cons_append, itemize_cons (ne_twoDashes_of_mem_names hs hname)
      (classify_of_name hs hname), List.cons_append, List.nil_append,
      itemize_cons (ne_twoDashes_of_head? hhead) (classify_of_word hhead)]
    cases itemize rest <;> rfl
  | @joined s name hname value =>
    obtain ⟨hs, -⟩ := hpart
    have hdashes : name ++ .char '=' :: value ≠ twoDashes := by
      intro heq
      have hmem : .char '=' ∈ twoDashes := heq ▸ (by simp : CodePoint.char '=' ∈ _)
      exact absurd hmem (by decide)
    exact ⟨_, .joined s name value _, itemize_cons hdashes (classify_of_joined hs hname value)⟩

/-! ### Going through the items -/

/-- What an action other than that for help makes of a request. -/
def Request.put (r : Request) (action : Action) (value : Option Text) : Request :=
  match action with
  | .help => r
  | .rootDir => { r with rootDir := (counted value).map Path.ofText }
  | .bundled => { r with bundled := true }
  | .list => { r with list := true }
  | .verbose => { r with verbose := true }
  | .dryRun => { r with dryRun := true }
  | .logFile => { r with logFile := counted value }

theorem Request.take_eq {action : Action} (h : action ≠ .help) (r : Request)
    (value : Option Text) : r.take action value = .ok (r.put action value) := by
  cases action with
  | help => exact absurd rfl h
  | _ => rfl

/-- The request with what a part asks for. -/
def Part.addTo (r : Request) : Part → Request
  | .operation name => { r with operation := some name }
  | .option s value => r.put s.action value

/-- What some parts ask for. -/
def demand (parts : List Part) : Request := parts.foldl Part.addTo {}

theorem unfold_of_value {s : Switch} (hs : s.value.isSome = true) (name value : Text) :
    unfold s name value = .ok [(s.action, some value)] := by
  cases value with
  | nil => exact if_pos hs
  | cons c rest => exact if_pos hs

/-- A part is gone through at once, wherever it stands, if no second operation comes up. -/
theorem go_items {choices : List Text} {part : Part} (hpart : part.WellFormed choices)
    {items : List Item} (hitems : Items part items) {p : Progress}
    (hfirst : p.taken = true → part.topic ≠ none) {rest : List Item}
    (hrest : ∀ item ∈ rest, item ≠ .separator) :
    go choices p (items ++ rest) =
      go choices { p with
        request := part.addTo p.request
        taken := p.taken || part.topic = none } rest := by
  cases hitems with
  | operation name =>
    obtain ⟨hmem, -, -⟩ := hpart
    have htaken : p.taken = false := Bool.eq_false_iff.mpr fun h => hfirst h rfl
    have hchoose : p.request.choose choices name =
        .ok { p.request with operation := some name } := if_pos hmem
    rw [List.cons_append, List.nil_append, go, htaken, hchoose]
    cases rest with
    | nil => rfl
    | cons item others =>
      cases item with
      | separator => exact absurd rfl (hrest _ List.mem_cons_self)
      | _ => rfl
  | alone s name argument =>
    obtain ⟨-, haction, hvalue, -⟩ := hpart
    have hnone : s.value.isSome = false := hvalue.symm
    rw [List.cons_append, List.nil_append, go]
    dsimp only
    rw [hnone, Request.take_eq haction]
    simp [Part.addTo, Part.topic, bind, Except.bind]
  | apart s name value argument =>
    obtain ⟨-, haction, hvalue, -⟩ := hpart
    have hsome : s.value.isSome = true := hvalue.symm
    rw [List.cons_append, List.cons_append, List.nil_append, go]
    dsimp only
    rw [if_pos hsome, Request.take_eq haction]
    simp [Part.addTo, Part.topic, bind, Except.bind]
  | joined s name value argument =>
    obtain ⟨-, haction, hvalue, -⟩ := hpart
    rw [List.cons_append, List.nil_append, go]
    dsimp only
    rw [unfold_of_value hvalue.symm]
    simp [Part.addTo, Part.topic, bind, Except.bind, Request.takeAll, Request.take_eq haction]

/-- By induction on the parts: whoever has gone through some of them goes through the rest. -/
theorem exists_items_of_spells {choices : List Text} {parts : List Part}
    (hparts : ∀ part ∈ parts, part.WellFormed choices) (honce : (parts.map Part.topic).Nodup)
    {written : List (List Text)} (h : List.Forall₂ Spelling parts written) :
    ∃ items, itemize written.flatten = .ok items ∧ (∀ item ∈ items, item ≠ .separator) ∧
      ∀ p : Progress, (p.taken = true → none ∉ parts.map Part.topic) →
        ∃ taken, go choices p items =
          .ok { p with request := parts.foldl Part.addTo p.request, taken } := by
  induction h with
  | nil => exact ⟨[], rfl, by simp, fun p _ => ⟨p.taken, rfl⟩⟩
  | @cons part spelling parts written hspelling _ ih =>
    rw [List.map_cons, List.nodup_cons] at honce
    have hpart := hparts part List.mem_cons_self
    obtain ⟨others, hothers, hplain, hgo⟩ :=
      ih (fun part' hpart' => hparts part' (List.mem_cons_of_mem _ hpart')) honce.2
    obtain ⟨items, hitems, hwritten⟩ := hspelling.exists_items hpart
    refine ⟨items ++ others, ?_, ?_, fun p hp => ?_⟩
    · rw [List.flatten_cons, hwritten, hothers]
      rfl
    · intro item hitem
      exact (List.mem_append.mp hitem).elim (hitems.ne_separator item) (hplain item)
    · rw [List.map_cons] at hp
      have hfirst : p.taken = true → part.topic ≠ none := fun htaken htopic =>
        hp htaken (htopic ▸ List.mem_cons_self)
      rw [go_items hpart hitems hfirst hplain]
      refine hgo _ fun htaken hmem => ?_
      simp only [Bool.or_eq_true, decide_eq_true_eq] at htaken
      rcases htaken with htaken | htopic
      · exact hp htaken (List.mem_cons_of_mem _ hmem)
      · exact honce.1 (htopic ▸ hmem)

/-- A command line asks for what its parts ask for, if that is enough. -/
theorem read_of_spells {choices : List Text} {parts : List Part}
    (hparts : ∀ part ∈ parts, part.WellFormed choices) (honce : (parts.map Part.topic).Nodup)
    {arguments : List Text} (h : Spells parts arguments) :
    read choices arguments =
      if (demand parts).lacksOperation then refuse .noOperation else .ok (demand parts) := by
  obtain ⟨written, hwritten, rfl⟩ := h
  obtain ⟨items, hitems, -, hgo⟩ := exists_items_of_spells hparts honce hwritten
  obtain ⟨taken, hgo⟩ := hgo {} (by simp)
  rw [read, hitems]
  dsimp only
  rw [hgo]
  rfl

/-! ### Order -/

theorem Request.put_comm {a b : Action} (h : a ≠ b) (r : Request) (v w : Option Text) :
    (r.put a v).put b w = (r.put b w).put a v := by
  cases a <;> cases b <;> first | rfl | exact absurd rfl h

theorem Request.put_operation (r : Request) (action : Action) (v : Option Text)
    (name : Option Text) :
    ({ r with operation := name } : Request).put action v =
      { r.put action v with operation := name } := by
  cases action <;> rfl

theorem Part.addTo_comm {a b : Part} (h : a.topic ≠ b.topic) (r : Request) :
    b.addTo (a.addTo r) = a.addTo (b.addTo r) := by
  cases a with
  | operation name =>
    cases b with
    | operation other => exact absurd rfl h
    | option s value => exact Request.put_operation r s.action value (some name)
  | option s value =>
    cases b with
    | operation name => exact (Request.put_operation r s.action value (some name)).symm
    | option t other => exact Request.put_comm (fun heq => h (congrArg some heq)) r value other

/-- Parts about different things do not get in each other's way. -/
theorem demand_of_perm {parts parts' : List Part} (h : parts.Perm parts')
    (honce : (parts.map Part.topic).Nodup) : demand parts = demand parts' := by
  refine h.foldl_eq' (fun a ha b hb r => ?_) ({} : Request)
  by_cases heq : a = b
  · rw [heq]
  · exact Part.addTo_comm (fun htopic => heq (List.inj_on_of_nodup_map honce ha hb htopic)) r

end BuildDispatch.Options
