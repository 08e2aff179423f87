import Mathlib.Data.List.Forall2
import BuildDispatch.Proofs.Run

/-!
# Two runs side by side

Two runs go alongside each other if the events that `keep` picks correspond one to one, in order,
and if they end alike. What they do in between without being noted may differ. This goes through
`bind` on both sides at once, and through `bind` on one side alone where nothing is noted there.

## Main statements

* `Run.Alongside.bind`: runs that go alongside each other may go on with such runs.
* `Run.Alongside.after_left`, `Run.Alongside.after_right`: one of the two may begin with a run that
  is not noted.
* `Run.alongside_eq_iff`: the second run is noted as an image of the first.
-/

namespace BuildDispatch

namespace Run

variable {α β γ δ : Type}

instance : LawfulMonad Run :=
  LawfulMonad.mk' Run
    (fun r => by
      change r >>= (fun a => pure (id a)) = r
      cases h : r.result with
      | error e => rw [bind_of_error h, ← h]
      | ok a => rw [bind_of_ok h, pure_events, List.append_nil, pure_result, id, ← h])
    (fun a f => by rw [bind_of_ok (pure_result a)]; rfl)
    (fun r f g => by
      cases h : r.result with
      | error e => rw [bind_of_error h, bind_of_error h, bind_of_error rfl]
      | ok a =>
        rw [bind_of_ok h, bind_of_ok h]
        cases hf : (f a).result with
        | error e => rw [bind_of_error rfl, bind_of_error hf]
        | ok b =>
          rw [bind_of_ok rfl, bind_of_ok hf]
          dsimp only
          rw [List.append_assoc])

/-- Two results that go together: values that are related, or the same failure. -/
inductive Alike (P : α → β → Prop) : Except Failure α → Except Failure β → Prop
  | ok {a : α} {b : β} (h : P a b) : Alike P (.ok a) (.ok b)
  | error (e : Failure) : Alike P (.error e) (.error e)

theorem alike_eq_iff {x : Except Failure α} {y : Except Failure β} {f : β → α} :
    Alike (fun a b => a = f b) x y ↔ x = y.map f := by
  constructor
  · rintro (h | _)
    · exact congrArg Except.ok h
    · rfl
  · rintro rfl
    cases y with
    | error e => exact .error e
    | ok b => exact .ok rfl

theorem alike_self (x : Except Failure α) : Alike (· = ·) x x := by
  cases x with
  | error e => exact .error e
  | ok a => exact .ok rfl

/-- The noted events of two runs correspond by `R`, and their results by `P`. -/
structure Alongside (keep : Event → Bool) (R : Event → Event → Prop) (P : α → β → Prop)
    (r : Run α) (r' : Run β) : Prop where
  events : List.Forall₂ R (r.events.filter keep) (r'.events.filter keep)
  result : Alike P r.result r'.result

section Alongside

variable {keep : Event → Bool} {R : Event → Event → Prop} {P : α → β → Prop} {Q : γ → δ → Prop}

theorem alongside_pure {a : α} {b : β} (h : P a b) :
    (pure a : Run α).Alongside keep R P (pure b : Run β) := ⟨.nil, .ok h⟩

theorem alongside_fail (e : Failure) :
    (fail e : Run α).Alongside keep R P (fail e : Run β) := ⟨.nil, .error e⟩

/-- What is known of both runs can be compared. -/
theorem Shows.alongside {r : Run α} {r' : Run β} {t t' : Trace} {x : Except Failure α}
    {y : Except Failure β} (h : r.Shows keep t x) (h' : r'.Shows keep t' y)
    (hevents : List.Forall₂ R t t') (hresult : Alike P x y) : r.Alongside keep R P r' where
  events := by rwa [h.events, h'.events]
  result := by rwa [h.result, h'.result]

theorem Alongside.bind {r : Run α} {r' : Run β} {f : α → Run γ} {f' : β → Run δ}
    (h : r.Alongside keep R P r') (hf : ∀ a b, P a b → (f a).Alongside keep R Q (f' b)) :
    (r >>= f).Alongside keep R Q (r' >>= f') := by
  obtain ⟨hevents, hresult⟩ := h
  generalize hx : r.result = x at hresult
  generalize hy : r'.result = y at hresult
  cases hresult with
  | error e =>
    rw [bind_of_error hx, bind_of_error hy]
    exact ⟨hevents, .error e⟩
  | @ok a b hab =>
    have rest := hf a b hab
    rw [bind_of_ok hx, bind_of_ok hy]
    refine ⟨?_, rest.result⟩
    rw [List.filter_append, List.filter_append]
    exact List.rel_append hevents rest.events

/-- A run goes alongside itself as long as its events stand for themselves. -/
theorem alongside_self {r : Run α} (h : r.Every fun ev => R ev ev) :
    r.Alongside keep R (· = ·) r where
  events := List.forall₂_same.mpr fun ev hev => h ev (List.mem_filter.mp hev).1
  result := alike_self _

/-- Two runs may log the same message. -/
theorem alongside_say (hR : ∀ r, R (.logged r) (.logged r)) (l : Log.Logger) (level : Log.Level)
    (source message : Text) :
    (l.say level source message).Alongside keep R (· = ·) (l.say level source message) :=
  alongside_self (every_say _ _ _ _ hR)

theorem Alongside.after_left {r : Run α} {f : α → Run γ} {r' : Run δ} {a : α}
    (h : (f a).Alongside keep R Q r') (hr : r.Shows keep [] (.ok a)) :
    (r >>= f).Alongside keep R Q r' where
  events := by
    rw [bind_of_ok hr.result, List.filter_append, hr.events]
    exact h.events
  result := by
    rw [bind_of_ok hr.result]
    exact h.result

theorem Alongside.after_right {r : Run γ} {r' : Run β} {f : β → Run δ} {b : β}
    (h : r.Alongside keep R Q (f b)) (hr : r'.Shows keep [] (.ok b)) :
    r.Alongside keep R Q (r' >>= f) where
  events := by
    rw [bind_of_ok hr.result, List.filter_append, hr.events]
    exact h.events
  result := by
    rw [bind_of_ok hr.result]
    exact h.result

/-- What follows the second run may turn its answer into another, as long as nothing is noted. -/
theorem Alongside.before_right {r : Run α} {r' : Run β} {f : β → Run δ} {Q : α → δ → Prop}
    (h : r.Alongside keep R P r')
    (hf : ∀ a b, P a b → ∃ d, (f b).Shows keep [] (.ok d) ∧ Q a d) :
    r.Alongside keep R Q (r' >>= f) := by
  have continued : (r >>= pure).Alongside keep R Q (r' >>= f) := by
    refine h.bind fun a b hab => ?_
    obtain ⟨d, hd, had⟩ := hf a b hab
    exact (shows_pure a).alongside hd .nil (.ok had)
  rwa [bind_pure] at continued

theorem Alongside.mono {P' : α → β → Prop} {r : Run α} {r' : Run β}
    (h : r.Alongside keep R P r') (hP : ∀ a b, P a b → P' a b) : r.Alongside keep R P' r' where
  events := h.events
  result := by
    obtain ⟨-, hresult⟩ := h
    generalize r.result = x at hresult
    generalize r'.result = y at hresult
    cases hresult with
    | ok hab => exact .ok (hP _ _ hab)
    | error e => exact .error e

/-- Two runs of which the second is noted as an image of the first. -/
theorem alongside_eq_iff {g : Event → Event} {f : β → α} {r : Run α} {r' : Run β} :
    r.Alongside keep (fun ev ev' => g ev = ev') (fun a b => a = f b) r' ↔
      r'.events.filter keep = (r.events.filter keep).map g ∧ r.result = r'.result.map f := by
  have hevents : List.Forall₂ (fun ev ev' => g ev = ev') (r.events.filter keep)
      (r'.events.filter keep) ↔ r'.events.filter keep = (r.events.filter keep).map g := by
    rw [← List.forall₂_map_left_iff, List.forall₂_eq_eq_eq, eq_comm]
  constructor
  · rintro ⟨he, hr⟩
    exact ⟨hevents.mp he, alike_eq_iff.mp hr⟩
  · rintro ⟨he, hr⟩
    exact ⟨hevents.mpr he, alike_eq_iff.mpr hr⟩

end Alongside

end Run
end BuildDispatch
