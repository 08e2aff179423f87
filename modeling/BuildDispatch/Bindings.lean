import BuildDispatch.Text

/-!
# Ordered bindings

Text keys bound to values, kept in the order in which the keys were first bound. Binding a key
again replaces its value and keeps its place; a new key goes last. Environments, catalogues and
log files are all bindings.
-/

namespace BuildDispatch

/-- Keys with their values, in the order of first binding. -/
structure Bindings (α : Type) where
  toList : List (Text × α)
deriving Repr, BEq, DecidableEq

namespace Bindings

variable {α : Type}

def empty : Bindings α := ⟨[]⟩

def keys (b : Bindings α) : List Text := b.toList.map Prod.fst

/-- The value of the first pair that has this key. -/
def find? (b : Bindings α) (key : Text) : Option α :=
  (b.toList.find? (fun pair => pair.1 == key)).map Prod.snd

def contains (b : Bindings α) (key : Text) : Bool := (b.find? key).isSome

/-- Replace the value at the first pair with this key, or append a pair. -/
def put (key : Text) (value : α) : List (Text × α) → List (Text × α)
  | [] => [(key, value)]
  | pair :: rest => if pair.1 = key then (key, value) :: rest else pair :: put key value rest

def insert (b : Bindings α) (key : Text) (value : α) : Bindings α :=
  ⟨put key value b.toList⟩

/-- Bind every pair of a list in turn. -/
def insertAll (b : Bindings α) (pairs : List (Text × α)) : Bindings α :=
  pairs.foldl (fun acc pair => acc.insert pair.1 pair.2) b

def ofList (pairs : List (Text × α)) : Bindings α := empty.insertAll pairs

@[simp] theorem insertAll_nil (b : Bindings α) : b.insertAll [] = b := rfl

@[simp] theorem insertAll_cons (b : Bindings α) (key : Text) (value : α)
    (rest : List (Text × α)) :
    b.insertAll ((key, value) :: rest) = (b.insert key value).insertAll rest := rfl

@[simp] theorem find?_empty (key : Text) : (empty : Bindings α).find? key = none := rfl

theorem find?_insert_self (b : Bindings α) (key : Text) (value : α) :
    (b.insert key value).find? key = some value := by
  obtain ⟨pairs⟩ := b
  simp only [insert, find?]
  induction pairs with
  | nil => simp [put]
  | cons pair rest ih =>
    by_cases h : pair.1 = key
    · simp [put, h]
    · simp [put, h, ih]

theorem find?_insert_of_ne (b : Bindings α) {key other : Text} (value : α)
    (h : other ≠ key) : (b.insert key value).find? other = b.find? other := by
  obtain ⟨pairs⟩ := b
  simp only [insert, find?]
  induction pairs with
  | nil => simp [put, Ne.symm h]
  | cons pair rest ih =>
    by_cases hk : pair.1 = key
    · simp [put, hk, Ne.symm h]
    · by_cases ho : pair.1 = other
      · simp [put, ho, h]
      · simp [put, hk, ho, ih]

theorem keys_insert (b : Bindings α) (key : Text) (value : α) :
    (b.insert key value).keys = if key ∈ b.keys then b.keys else b.keys ++ [key] := by
  obtain ⟨pairs⟩ := b
  simp only [insert, keys]
  induction pairs with
  | nil => simp [put]
  | cons pair rest ih =>
    by_cases h : pair.1 = key
    · simp [put, h]
    · have h' : ¬ key = pair.1 := fun e => h e.symm
      simp only [put, h, if_false, List.map_cons, ih, List.mem_cons, h', false_or]
      split <;> simp_all

@[simp] theorem keys_empty : (empty : Bindings α).keys = [] := rfl

theorem find?_eq_none_iff (b : Bindings α) (key : Text) :
    b.find? key = none ↔ key ∉ b.keys := by
  simp only [find?, keys, Option.map_eq_none_iff, List.find?_eq_none, List.mem_map, not_exists,
    not_and, beq_iff_eq]

theorem contains_iff_mem_keys (b : Bindings α) (key : Text) :
    b.contains key = true ↔ key ∈ b.keys := by
  rw [contains, Option.isSome_iff_ne_none, Ne, find?_eq_none_iff, Decidable.not_not]

theorem mem_toList_of_find? {b : Bindings α} {key : Text} {value : α}
    (h : b.find? key = some value) : (key, value) ∈ b.toList := by
  obtain ⟨pair, hpair, rfl⟩ := Option.map_eq_some_iff.mp h
  have hkey : pair.1 = key := by simpa using List.find?_some hpair
  rw [← hkey]
  exact List.mem_of_find?_eq_some hpair

end Bindings

/-- Environment variables, in order. -/
abbrev Environment := Bindings Text

end BuildDispatch
