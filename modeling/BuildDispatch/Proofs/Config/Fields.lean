import BuildDispatch.Config.Fields
import BuildDispatch.Proofs.Value.Text

/-!
# Reading fields

When the parts of a value can be read, and as what. A check passes under conditions on the shape of
the value alone, as far as values can be written as text; whatever else it finds is a fault.
-/

namespace BuildDispatch

/-- A value as text, where that is known to be possible. -/
def Value.str (v : Value) : Text :=
  match v.text with
  | .ok t => t
  | .error _ => []

/-- The items of a list. All else has none. -/
def Value.items (v : Value) : List Value :=
  match v.view with
  | .list items => items
  | _ => []

/-- Null stands for a list without items. -/
def Value.IsListOrNull (v : Value) : Prop := v.view = .null ∨ ∃ items, v.view = .list items

theorem bind_eq_ok_iff {ε α β : Type} {x : Except ε α} {f : α → Except ε β} {b : β} :
    x >>= f = .ok b ↔ ∃ a, x = .ok a ∧ f a = .ok b := by
  cases x with
  | error e => simp [bind, Except.bind]
  | ok a => simp [bind, Except.bind]

theorem mapError_eq_ok_iff {ε ε' α : Type} {x : Except ε α} {f : ε → ε'} {a : α} :
    x.mapError f = .ok a ↔ x = .ok a := by
  cases x with
  | error e => exact ⟨nofun, nofun⟩
  | ok b =>
    constructor
    · intro h
      rw [Except.ok.inj h]
    · intro h
      rw [Except.ok.inj h]
      rfl

theorem Value.hasPart_of_optional {v part : Value} {key : Text}
    (h : Config.optional v key = some part) : v.HasPart part := by
  unfold Config.optional at h
  split at h
  · next pairs hview =>
    obtain ⟨k, hmem⟩ := Value.exists_mem_of_lookup h
    exact (Value.hasPart_of_entry hview hmem).2
  · cases h

theorem Value.Writable.optional {v part : Value} (hv : v.Writable) {key : Text}
    (h : Config.optional v key = some part) : part.Writable :=
  hv.part (Value.hasPart_of_optional h)

theorem Value.Writable.items {v item : Value} (hv : v.Writable) (h : item ∈ v.items) :
    item.Writable := by
  unfold Value.items at h
  split at h
  · next items hview => exact hv.item hview h
  · cases h

namespace Config

/-! ### What a passed check has read -/

theorem textOf_eq_ok_iff {v : Value} {t : Text} : textOf v = .ok t ↔ v.text = .ok t :=
  mapError_eq_ok_iff

theorem str_of_textOf {v : Value} {t : Text} (h : textOf v = .ok t) : t = v.str := by
  rw [Value.str, textOf_eq_ok_iff.mp h]

theorem str_of_mapM_textOf {vs : List Value} {ts : List Text} (h : vs.mapM textOf = .ok ts) :
    ts = vs.map Value.str := by
  induction vs generalizing ts with
  | nil => simpa [pure, Except.pure, eq_comm] using h
  | cons v rest ih =>
    rw [List.mapM_cons, bind_eq_ok_iff] at h
    obtain ⟨t, ht, h⟩ := h
    obtain ⟨us, hus, h⟩ := bind_eq_ok_iff.mp h
    obtain rfl := Except.ok.inj h
    rw [str_of_textOf ht, ih hus, List.map_cons]

theorem require_eq_ok_iff {v part : Value} {key place : Text} :
    require v key place = .ok part ↔ optional v key = some part := by
  unfold require
  cases optional v key <;> simp [reject]

theorem texts_eq_ok_iff {v : Value} {place : Text} {ts : List Text} :
    texts v place = .ok ts ↔ v.IsListOrNull ∧ v.items.mapM textOf = .ok ts := by
  unfold texts Value.IsListOrNull Value.items
  cases v.view <;> simp [reject, pure, Except.pure]

theorem requireTexts_eq_ok_iff {v : Value} {key place listPlace : Text} {ts : List Text} :
    requireTexts v key place listPlace = .ok ts ↔
      ∃ part, optional v key = some part ∧ part.IsListOrNull ∧
        part.items.mapM textOf = .ok ts := by
  simp only [requireTexts, bind_eq_ok_iff, require_eq_ok_iff, texts_eq_ok_iff]

theorem ite_reject_eq_ok_iff {α : Type} {p : Prop} [Decidable p] {fault : ConfigFault}
    {x : Checked α} {a : α} :
    (if p then reject fault else x) = .ok a ↔ ¬ p ∧ x = .ok a := by
  by_cases h : p <;> simp [h, reject]

/-- The items under a key, if there is a list. -/
def itemsAt (v : Value) (key : Text) : List Value :=
  match optional v key with
  | some part => part.items
  | none => []

theorem optionalTexts_eq_ok_iff {v : Value} {key place : Text} {ts : List Text} :
    optionalTexts v key place = .ok ts ↔
      (∀ part, optional v key = some part → part.IsListOrNull) ∧
        (itemsAt v key).mapM textOf = .ok ts := by
  unfold optionalTexts itemsAt
  cases optional v key with
  | none => simp [pure, Except.pure]
  | some part => simp [texts_eq_ok_iff]

/-! ### When a check passes -/

/-- The check never fails for want of a text. -/
def OnlyFaults {α : Type} (x : Checked α) : Prop :=
  ∀ rejection, x = .error rejection → ∃ fault, rejection = .fault fault

/-- The check passes if `p` holds, and otherwise it finds a fault. -/
structure Decides {α : Type} (x : Checked α) (p : Prop) : Prop where
  passes : (∃ a, x = .ok a) ↔ p
  faults : OnlyFaults x

section Decides

variable {α β : Type} {x : Checked α} {p q : Prop}

theorem decides_ok (a : α) : Decides (.ok a : Checked α) True where
  passes := by simp
  faults := by simp [OnlyFaults]

theorem decides_reject (fault : ConfigFault) : Decides (reject fault : Checked α) False where
  passes := by simp [reject]
  faults rejection h := ⟨fault, (Except.error.inj h).symm⟩

theorem Decides.congr (h : Decides x p) (hpq : p ↔ q) : Decides x q where
  passes := h.passes.trans hpq
  faults := h.faults

theorem decides_of_exists (h : ∃ a, x = .ok a) : Decides x True := by
  obtain ⟨a, rfl⟩ := h
  exact decides_ok a

theorem OnlyFaults.bind {f : α → Checked β} (hx : OnlyFaults x)
    (hf : ∀ a, x = .ok a → OnlyFaults (f a)) : OnlyFaults (x >>= f) := by
  cases x with
  | error rejection =>
    intro r h
    exact hx r (congrArg _ (Except.error.inj h))
  | ok a => exact hf a rfl

theorem onlyFaults_mapError (x : Except ConfigFault α) :
    OnlyFaults (x.mapError Rejection.fault) := by
  cases x with
  | ok a => exact (decides_ok a).faults
  | error fault => exact (decides_reject fault).faults

/-- A check that goes on with a second one passes if both do. -/
theorem Decides.bind {f : α → Checked β} (hx : Decides x p)
    (hf : ∀ a, x = .ok a → Decides (f a) q) : Decides (x >>= f) (p ∧ q) where
  passes := by
    simp only [bind_eq_ok_iff]
    constructor
    · rintro ⟨b, a, ha, hb⟩
      exact ⟨hx.passes.mp ⟨a, ha⟩, (hf a ha).passes.mp ⟨b, hb⟩⟩
    · rintro ⟨hp, hq⟩
      obtain ⟨a, ha⟩ := hx.passes.mpr hp
      obtain ⟨b, hb⟩ := (hf a ha).passes.mpr hq
      exact ⟨b, a, ha, hb⟩
  faults := hx.faults.bind fun a ha => (hf a ha).faults

theorem Decides.map (hx : Decides x p) (f : α → β) : Decides (x.map f) p := by
  cases x with
  | error rejection =>
    refine ⟨?_, fun r h => hx.faults r (congrArg _ (Except.error.inj h))⟩
    simpa [Except.map] using hx.passes
  | ok a => exact (decides_ok (f a)).congr (by simpa using hx.passes)

theorem decides_ite_reject [Decidable p] {fault : ConfigFault} (hx : Decides x q) :
    Decides (if p then reject fault else x) (¬ p ∧ q) := by
  split
  · next hp => exact (decides_reject fault).congr (by simp [hp])
  · next hp => exact hx.congr (by simp [hp])

end Decides

/-! ### When a field is read -/

section Writable

variable {v : Value} {key : Text}

theorem exists_textOf (hv : v.Writable) : ∃ t, textOf v = .ok t := by
  obtain ⟨t, ht⟩ := hv.exists_text
  exact ⟨t, textOf_eq_ok_iff.mpr ht⟩

theorem exists_mapM_textOf (hv : v.Writable) : ∃ ts, v.items.mapM textOf = .ok ts :=
  exists_mapM_eq_ok fun _ hitem => exists_textOf (hv.items hitem)

theorem decides_textOf (hv : v.Writable) : Decides (textOf v) True :=
  decides_of_exists (exists_textOf hv)

/-- A check that goes on with a part passes if the part is there and the rest does. -/
theorem decides_require_bind {α : Type} {f : Value → Checked α} {q : Value → Prop}
    (place : Text) (hf : ∀ part, optional v key = some part → Decides (f part) (q part)) :
    Decides (require v key place >>= f) (∃ part, optional v key = some part ∧ q part) := by
  unfold require
  cases h : optional v key with
  | none => exact (decides_reject _).congr (by simp)
  | some part => exact (hf part h).congr (by simp)

theorem decides_texts (hv : v.Writable) (place : Text) :
    Decides (texts v place) v.IsListOrNull := by
  have hmapM := exists_mapM_textOf hv
  unfold texts Value.IsListOrNull
  unfold Value.items at hmapM
  cases hview : v.view with
  | null => exact (decides_ok _).congr (by simp)
  | list items =>
    rw [hview] at hmapM
    exact (decides_of_exists hmapM).congr (by simp)
  | _ => exact (decides_reject _).congr (by simp)

theorem decides_requireText (hv : v.Writable) (key place : Text) :
    Decides (requireText v key place) (∃ part, optional v key = some part) := by
  have read := decides_require_bind place fun part (hpart : optional v key = some part) =>
    decides_textOf (hv.optional hpart)
  exact read.congr (by simp)

theorem decides_requireTexts (hv : v.Writable) (key place listPlace : Text) :
    Decides (requireTexts v key place listPlace)
      (∃ part, optional v key = some part ∧ part.IsListOrNull) :=
  decides_require_bind place fun _ hpart => decides_texts (hv.optional hpart) listPlace

theorem decides_optionalText (hv : v.Writable) (key default : Text) :
    Decides (optionalText v key default) True := by
  unfold optionalText
  cases h : optional v key with
  | none => exact decides_ok default
  | some part => exact decides_textOf (hv.optional h)

theorem decides_optionalTexts (hv : v.Writable) (key place : Text) :
    Decides (optionalTexts v key place)
      (∀ part, optional v key = some part → part.IsListOrNull) := by
  unfold optionalTexts
  cases h : optional v key with
  | none => exact (decides_ok []).congr (by simp)
  | some part => exact (decides_texts (hv.optional h) place).congr (by simp)

end Writable

end Config
end BuildDispatch
