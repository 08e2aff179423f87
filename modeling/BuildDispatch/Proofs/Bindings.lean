import BuildDispatch.Bindings

/-!
# Where bindings go

What a binding does to the list of all pairs. `Bindings.IsUpdate` describes it from outside, by the
pairs before and after: a known key keeps its place, a new one goes last, and no other pair is
touched or moved. Of two bindings of one key the second counts; two keys may be bound in either
order as far as values go, and only their places tell the difference.
-/

namespace BuildDispatch

namespace Bindings

variable {α : Type}

/-- The pairs of `after` are those of `before` with `key` bound to `value`. -/
def IsUpdate (before : Bindings α) (key : Text) (value : α) (after : Bindings α) : Prop :=
  (key ∉ before.keys ∧ after.toList = before.toList ++ [(key, value)]) ∨
    ∃ front old back, before.toList = front ++ (key, old) :: back ∧
      key ∉ front.map Prod.fst ∧ after.toList = front ++ (key, value) :: back

theorem put_of_notMem {key : Text} (value : α) {pairs : List (Text × α)}
    (h : key ∉ pairs.map Prod.fst) : put key value pairs = pairs ++ [(key, value)] := by
  induction pairs with
  | nil => rfl
  | cons pair rest ih =>
    rw [List.map_cons, List.mem_cons, not_or] at h
    rw [put, if_neg (Ne.symm h.1), ih h.2, List.cons_append]

theorem put_of_mem {key : Text} (value : α) {pairs : List (Text × α)}
    (h : key ∈ pairs.map Prod.fst) :
    ∃ front old back, pairs = front ++ (key, old) :: back ∧ key ∉ front.map Prod.fst ∧
      put key value pairs = front ++ (key, value) :: back := by
  induction pairs with
  | nil => simp at h
  | cons pair rest ih =>
    by_cases hk : pair.1 = key
    · exact ⟨[], pair.2, rest, by simp [← hk], by simp, by simp [put, hk]⟩
    · have hrest : key ∈ rest.map Prod.fst := by
        simpa [Ne.symm hk] using h
      obtain ⟨front, old, back, hpairs, hfront, hput⟩ := ih hrest
      refine ⟨pair :: front, old, back, by simp [hpairs], ?_, by simp [put, hk, hput]⟩
      rw [List.map_cons, List.mem_cons, not_or]
      exact ⟨Ne.symm hk, hfront⟩

theorem toList_insert_of_notMem {b : Bindings α} {key : Text} (h : key ∉ b.keys) (value : α) :
    (b.insert key value).toList = b.toList ++ [(key, value)] :=
  put_of_notMem value h

theorem exists_find?_of_mem_keys {b : Bindings α} {key : Text} (h : key ∈ b.keys) :
    ∃ value, b.find? key = some value :=
  Option.isSome_iff_exists.mp ((contains_iff_mem_keys b key).mpr h)

theorem insert_isUpdate (b : Bindings α) (key : Text) (value : α) :
    b.IsUpdate key value (b.insert key value) := by
  by_cases h : key ∈ b.keys
  · exact .inr (put_of_mem value h)
  · exact .inl ⟨h, toList_insert_of_notMem h value⟩

/-! ### Two bindings -/

theorem put_put_self (key : Text) (value value' : α) (pairs : List (Text × α)) :
    put key value' (put key value pairs) = put key value' pairs := by
  induction pairs with
  | nil => simp [put]
  | cons pair rest ih =>
    by_cases h : pair.1 = key
    · simp [put, h]
    · simp [put, h, ih]

/-- The second value is found where the first one was put. -/
theorem insert_insert_self (b : Bindings α) (key : Text) (value value' : α) :
    (b.insert key value).insert key value' = b.insert key value' :=
  congrArg Bindings.mk (put_put_self key value value' b.toList)

theorem find?_insert (b : Bindings α) (key other : Text) (value : α) :
    (b.insert key value).find? other = if other = key then some value else b.find? other := by
  split
  · next h => rw [h, find?_insert_self]
  · next h => exact find?_insert_of_ne b value h

/-- What is found is the new value, or what another key was bound to before. -/
theorem find?_insert_eq_some_iff {b : Bindings α} {key other : Text} {value found : α} :
    (b.insert key value).find? other = some found ↔
      (other = key ∧ found = value) ∨ (other ≠ key ∧ b.find? other = some found) := by
  rw [find?_insert]
  split
  · next h => simp [h, eq_comm]
  · next h => simp [h]

theorem find?_insert_comm (b : Bindings α) {key key' : Text} (h : key ≠ key') (value value' : α)
    (other : Text) :
    ((b.insert key value).insert key' value').find? other =
      ((b.insert key' value').insert key value).find? other := by
  simp only [find?_insert]
  grind

end Bindings
end BuildDispatch
