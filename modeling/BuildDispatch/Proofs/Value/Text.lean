import Mathlib.Algebra.Group.Nat.Defs
import Mathlib.Logic.Relation
import BuildDispatch.Value.Text

/-!
# Which values have a text

A container is written by writing its parts, and one that is met inside of itself by an ellipsis.
So a value has a text as soon as all values without parts have one that can be reached from it,
through however many containers and cycles.

## Main statements

* `Value.Writable`: all scalars in a value have a text.
* `Value.Writable.exists_text`: then the value has one.
-/

namespace BuildDispatch

theorem exists_mapM_eq_ok {ε α β : Type} {f : α → Except ε β} {l : List α}
    (h : ∀ a ∈ l, ∃ b, f a = .ok b) : ∃ bs, l.mapM f = .ok bs := by
  induction l with
  | nil => exact ⟨[], rfl⟩
  | cons a rest ih =>
    obtain ⟨b, hb⟩ := h a List.mem_cons_self
    obtain ⟨bs, hbs⟩ := ih fun a' ha' => h a' (List.mem_cons_of_mem _ ha')
    refine ⟨b :: bs, ?_⟩
    rw [List.mapM_cons, hb, hbs]
    rfl

/-- A whole number has no text exactly if it has more digits than are written. -/
theorem intText_eq_error_iff {n : Int} :
    intText n = .error .tooManyDigits ↔ 10 ^ digitLimit ≤ n.natAbs := by
  have hlength : (toString n.natAbs).length = (Nat.toDigits 10 n.natAbs).length :=
    String.length_ofList
  have hdigits : (Nat.toDigits 10 n.natAbs).length ≤ digitLimit ↔ n.natAbs < 10 ^ digitLimit :=
    Nat.length_toDigits_le_iff (by decide) (by decide)
  unfold intText
  rw [hlength]
  split
  · next h => simpa using Nat.not_lt.mp fun hlt => Nat.not_le.mpr h (hdigits.mpr hlt)
  · next h => simpa using hdigits.mp (Nat.not_lt.mp h)

/-- The least number that has too many digits. -/
def manyDigits : Int := (10 ^ digitLimit : Nat)

theorem le_natAbs_manyDigits : 10 ^ digitLimit ≤ manyDigits.natAbs :=
  Nat.le_of_eq (Int.natAbs_natCast _).symm

namespace Shape

variable {α β : Type}

/-- The parts of a container. -/
def parts : Shape α → List α
  | list items => items
  | pair key value => [key, value]
  | set members => members
  | mapping entries => entries.flatMap fun entry => [entry.1, entry.2]
  | _ => []

/-- Values without parts. -/
def isScalar : Shape α → Bool
  | list _ | pair .. | set _ | mapping _ => false
  | _ => true

/-- Only whole numbers may be without a text. -/
def isWritable : Shape α → Bool
  | int n => (intText n).isOk
  | _ => true

theorem exists_intText_of_isWritable {n : Int} (h : (int n : Shape α).isWritable = true) :
    ∃ t, intText n = .ok t := by
  unfold isWritable at h
  cases ht : intText n with
  | ok t => exact ⟨t, rfl⟩
  | error cause => simp [ht, Except.isOk, Except.toBool] at h

theorem parts_onParts (f : α → β) (s : Shape α) : (s.onParts f).parts = s.parts.map f := by
  cases s <;> simp [onParts, parts, List.flatMap_map, List.map_flatMap]

/-- A container is written as soon as its parts are. -/
theorem exists_literalWith {s : Shape α} {part : α → Written Text}
    (hparts : ∀ a ∈ s.parts, ∃ t, part a = .ok t)
    (hint : ∀ n, s = int n → ∃ t, intText n = .ok t) : ∃ t, s.literalWith part = .ok t := by
  cases s with
  | int n => exact hint n rfl
  | list items =>
    obtain ⟨texts, htexts⟩ : ∃ texts, items.mapM part = .ok texts := exists_mapM_eq_ok hparts
    rw [literalWith, htexts]
    exact ⟨_, rfl⟩
  | pair key value =>
    obtain ⟨k, hk⟩ := hparts key (by simp [parts])
    obtain ⟨v, hv⟩ := hparts value (by simp [parts])
    rw [literalWith, hk, hv]
    exact ⟨_, rfl⟩
  | set members =>
    obtain ⟨texts, htexts⟩ : ∃ texts, members.mapM part = .ok texts := exists_mapM_eq_ok hparts
    rw [literalWith, htexts]
    split
    · exact ⟨_, rfl⟩
    · exact ⟨_, rfl⟩
  | mapping entries =>
    have hentry : ∀ entry ∈ entries, ∃ t, (do
        let keyText ← part entry.1
        let valueText ← part entry.2
        .ok (keyText ++ ": " ++ valueText) : Written Text) = .ok t := by
      intro entry hmem
      have hin : ∀ a ∈ [entry.1, entry.2], a ∈ (mapping entries).parts :=
        fun a ha => List.mem_flatMap.mpr ⟨entry, hmem, ha⟩
      obtain ⟨k, hk⟩ := hparts entry.1 (hin _ (by simp))
      obtain ⟨v, hv⟩ := hparts entry.2 (hin _ (by simp))
      rw [hk, hv]
      exact ⟨_, rfl⟩
    obtain ⟨texts, htexts⟩ := exists_mapM_eq_ok hentry
    rw [literalWith, htexts]
    exact ⟨_, rfl⟩
  | _ => exact ⟨_, rfl⟩

end Shape

namespace Value

def HasPart (v part : Value) : Prop := part ∈ v.view.parts

/-- All scalars that can be reached from the value have a text. -/
def Writable (v : Value) : Prop :=
  ∀ u, Relation.ReflTransGen HasPart v u → u.view.isScalar = true → ∃ t, u.text = .ok t

theorem Writable.part {v part : Value} (hv : v.Writable) (hpart : part ∈ v.view.parts) :
    part.Writable :=
  fun u hu => hv u (.head hpart hu)

theorem mem_parts_view {v : Value} {p : Place} (h : p ∈ (v.heap.look v.place).parts) :
    ⟨v.heap, p⟩ ∈ v.view.parts := by
  rw [view, Shape.parts_onParts]
  exact List.mem_map.mpr ⟨p, h, rfl⟩

theorem text_of_int {v : Value} {n : Int} (h : v.heap.look v.place = .int n) :
    v.text = intText n := by
  simp [text, literal, view, h, Shape.onParts, Heap.literalFrom, Shape.literalWith]

/-- The induction is on the fuel: the parts of a container are written with less of it. -/
theorem Writable.exists_literalFrom {v : Value} (hv : v.Writable) (fuel : Nat)
    (around : List Place) : ∃ t, v.heap.literalFrom fuel around v.place = .ok t := by
  induction fuel generalizing v around with
  | zero => exact ⟨_, rfl⟩
  | succ fuel ih =>
    rw [Heap.literalFrom]
    split
    · exact ⟨_, rfl⟩
    · refine Shape.exists_literalWith (fun p hp => ?_) fun n hn => ?_
      · exact ih (hv.part (mem_parts_view hp)) _
      · obtain ⟨t, ht⟩ := hv v .refl (by simp [view, hn, Shape.onParts, Shape.isScalar])
        exact ⟨t, text_of_int hn ▸ ht⟩

theorem exists_text_of_literal {v : Value} (h : ∃ t, v.literal = .ok t) :
    ∃ t, v.text = .ok t := by
  unfold text
  split
  · exact ⟨_, rfl⟩
  · exact ⟨_, rfl⟩
  · exact ⟨_, rfl⟩
  · exact h

theorem Writable.exists_text {v : Value} (hv : v.Writable) : ∃ t, v.text = .ok t :=
  exists_text_of_literal (hv.exists_literalFrom _ _)

theorem heap_eq_of_reaches {v u : Value} (h : Relation.ReflTransGen HasPart v u) :
    u.heap = v.heap := by
  induction h with
  | refl => rfl
  | tail _ hpart ih =>
    rw [HasPart, view, Shape.parts_onParts] at hpart
    obtain ⟨p, -, rfl⟩ := List.mem_map.mp hpart
    exact ih

/-- It is enough to look at all whole numbers in the heap, whether they can be reached or not. -/
theorem writable_of_heap {v : Value}
    (h : v.heap.shapes.toList.all Shape.isWritable = true) : v.Writable := by
  intro u hu hscalar
  refine exists_text_of_literal ?_
  rw [literal, Heap.literalFrom, if_neg List.not_mem_nil]
  refine Shape.exists_literalWith (fun p hp => ?_) fun n hn => ?_
  · have hpart := mem_parts_view hp
    cases hview : u.view <;> simp_all [Shape.parts, Shape.isScalar]
  · have hmem : .int n ∈ v.heap.shapes.toList := by
      rw [heap_eq_of_reaches hu, Heap.look, Array.getD_eq_getD_getElem?] at hn
      cases hget : v.heap.shapes[u.place]? with
      | none => simp [hget] at hn
      | some s =>
        obtain rfl : s = .int n := by simpa [hget] using hn
        exact Array.mem_toList_iff.mpr (Array.mem_of_getElem? hget)
    exact Shape.exists_intText_of_isWritable (List.all_eq_true.mp h _ hmem)

/-! ### Parts of lists and mappings -/

theorem Writable.item {v item : Value} {items : List Value} (hv : v.Writable)
    (hview : v.view = .list items) (hitem : item ∈ items) : item.Writable :=
  hv.part (by rwa [hview])

theorem hasPart_of_entry {v : Value} {pair : Value × Value} {pairs : List (Value × Value)}
    (hview : v.view = .mapping pairs) (hpair : pair ∈ pairs) :
    v.HasPart pair.1 ∧ v.HasPart pair.2 := by
  have hin : ∀ u ∈ [pair.1, pair.2], v.HasPart u := by
    intro u hu
    rw [HasPart, hview]
    exact List.mem_flatMap.mpr ⟨pair, hpair, hu⟩
  exact ⟨hin _ (by simp), hin _ (by simp)⟩

theorem Writable.entry {v : Value} {pair : Value × Value} {pairs : List (Value × Value)}
    (hv : v.Writable) (hview : v.view = .mapping pairs) (hpair : pair ∈ pairs) :
    pair.1.Writable ∧ pair.2.Writable :=
  (hasPart_of_entry hview hpair).imp hv.part hv.part

theorem heap_eq_of_entry {v : Value} {pair : Value × Value} {pairs : List (Value × Value)}
    (hview : v.view = .mapping pairs) (hpair : pair ∈ pairs) :
    pair.1.heap = v.heap ∧ pair.2.heap = v.heap :=
  have ⟨hkey, hvalue⟩ := hasPart_of_entry hview hpair
  ⟨heap_eq_of_reaches (.single hkey), heap_eq_of_reaches (.single hvalue)⟩

theorem exists_mem_of_lookup {key : Text} {pairs : List (Value × Value)} {part : Value}
    (h : lookup key pairs = some part) : ∃ k, (k, part) ∈ pairs := by
  induction pairs with
  | nil => cases h
  | cons pair rest ih =>
    rcases pair with ⟨k, v⟩
    rw [lookup] at h
    have hrest (hr : lookup key rest = some part) : ∃ k', (k', part) ∈ (k, v) :: rest := by
      obtain ⟨k', hk'⟩ := ih hr
      exact ⟨k', List.mem_cons_of_mem _ hk'⟩
    split at h
    · split at h
      · obtain rfl := Option.some.inj h
        exact ⟨k, List.mem_cons_self⟩
      · exact hrest h
    · exact hrest h

end Value
end BuildDispatch
