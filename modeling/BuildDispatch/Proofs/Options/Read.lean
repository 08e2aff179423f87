import BuildDispatch.Options.Read
import BuildDispatch.Proofs.Config.Fields

/-!
# Reading the command line

The operation that a command line asks for is one of the choices. Nothing that options do changes
it, and no request gets through that asks neither for an operation nor for the list of them.

## Main statements

* `Options.exists_operation_of_read`: a request that is no request for the list has an operation.
-/

namespace BuildDispatch.Options

variable {choices : List Text}

/-- The operation of a request, if it has one, is among the choices. -/
def Request.Chosen (choices : List Text) (r : Request) : Prop :=
  ∀ name, r.operation = some name → name ∈ choices

theorem Request.operation_of_take {r r' : Request} {action : Action} {value : Option Text}
    (h : r.take action value = .ok r') : r'.operation = r.operation := by
  cases action <;> cases h <;> rfl

theorem Request.operation_of_takeAll {r r' : Request} {actions : List (Action × Option Text)}
    (h : r.takeAll actions = .ok r') : r'.operation = r.operation := by
  induction actions generalizing r with
  | nil => cases h; rfl
  | cons taken rest ih =>
    obtain ⟨action, value⟩ := taken
    obtain ⟨next, hnext, hrest⟩ := bind_eq_ok_iff.mp h
    exact (ih hrest).trans (operation_of_take hnext)

theorem Request.chosen_of_choose {r r' : Request} {word : Text}
    (h : r.choose choices word = .ok r') : r'.Chosen choices := by
  unfold choose at h
  split at h
  · next hword =>
    cases h
    rintro name ⟨⟩
    exact hword
  · cases h

theorem Request.Chosen.congr {r r' : Request} (h : r.Chosen choices)
    (hop : r'.operation = r.operation) : r'.Chosen choices :=
  fun name hname => h name (hop ▸ hname)

/-- An item leaves the operation as it is, or takes one of the choices. -/
theorem chosen_of_go {items : List Item} {p q : Progress} (h : go choices p items = .ok q)
    (hp : p.request.Chosen choices) : q.request.Chosen choices := by
  fun_induction go choices p items with
  | case1 p =>
    cases h
    exact hp
  | case2 p rest htaken =>
    cases h
    exact hp
  | case3 p htaken text rest =>
    obtain ⟨request, hrequest, hq⟩ := bind_eq_ok_iff.mp h
    cases hq
    exact Request.chosen_of_choose hrequest
  | case4 p rest htaken hword =>
    cases h
    exact hp
  | case5 p text rest htaken ih => exact ih h hp
  | case6 p text rest htaken ih =>
    obtain ⟨request, hrequest, hq⟩ := bind_eq_ok_iff.mp h
    have hchosen := Request.chosen_of_choose hrequest
    specialize ih request
    dsimp only at hq ih
    -- Two dashes behind the operation end the reading; anything else is gone through as before.
    split at hq
    · cases hq
      exact hchosen
    · next hword =>
      split at ih
      · exact absurd rfl (hword _)
      · exact ih hq hchosen
  | case7 p m rest hswitch ih => exact ih h hp
  | case8 p m rest s hswitch value hvalue ih =>
    obtain ⟨actions, -, hrest⟩ := bind_eq_ok_iff.mp h
    obtain ⟨request, hrequest, hgo⟩ := bind_eq_ok_iff.mp hrest
    exact ih request hgo (hp.congr (Request.operation_of_takeAll hrequest))
  | case9 p m s hswitch hvalue hneeds text rest ih =>
    obtain ⟨request, hrequest, hgo⟩ := bind_eq_ok_iff.mp h
    exact ih request hgo (hp.congr (Request.operation_of_take hrequest))
  | case10 p m rest s hswitch hvalue hneeds hword => cases h
  | case11 p m rest s hswitch hvalue hneeds ih =>
    obtain ⟨request, hrequest, hgo⟩ := bind_eq_ok_iff.mp h
    exact ih request hgo (hp.congr (Request.operation_of_take hrequest))

theorem exists_operation_of_read {arguments : List Text} {r : Request}
    (h : read choices arguments = .ok r) (hlist : r.list = false) :
    ∃ name ∈ choices, r.operation = some name := by
  unfold read at h
  split at h
  · cases h
  next items hitems =>
  obtain ⟨p, hgo, hrest⟩ := bind_eq_ok_iff.mp h
  split at hrest
  · cases hrest
  split at hrest
  · cases hrest
  next hasked =>
  obtain rfl := Except.ok.inj hrest
  have hchosen : p.request.Chosen choices := chosen_of_go hgo (by rintro name ⟨⟩)
  cases hop : p.request.operation with
  | none => simp [Request.lacksOperation, hlist, hop] at hasked
  | some name => exact ⟨name, hchosen name hop, rfl⟩

end BuildDispatch.Options
