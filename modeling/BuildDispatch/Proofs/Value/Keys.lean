import Mathlib.Data.List.Infix
import BuildDispatch.Proofs.Text.Numerals
import BuildDispatch.Proofs.Value.Text

/-!
# Keys of mappings

Two keys that are the same key of a mapping cannot be told apart by any third one as long as they
read alike. That they read alike is needed for numbers alone: a whole number and a fraction may be
the same key, and then their texts tell them apart.

A mapping has one entry for keys that cannot be told apart. It keeps the key that came first, and of
the values the one that came last.

## Main statements

* `Heap.sameKey_congr`: keys that are the same and read alike are the same as the same keys.
* `Heap.entryOf_ofPairs`: the entry that a key leads to has a value that was written with the key or
  later.
-/

namespace BuildDispatch

/-! ### Texts of numbers -/

namespace Double

/-- The characters that numbers are written with. -/
def isNumeric (c : Char) : Bool := c.isDigit || c = '.' || c = 'e' || c = '+' || c = '-'

def IsNumeric (text : List Char) : Prop := ∀ c ∈ text, isNumeric c = true

theorem isNumeric_iff_all {text : List Char} : IsNumeric text ↔ text.all isNumeric = true :=
  List.all_eq_true.symm

theorem IsNumeric.append {s t : List Char} (hs : IsNumeric s) (ht : IsNumeric t) :
    IsNumeric (s ++ t) := fun c hc => (List.mem_append.mp hc).elim (hs c) (ht c)

theorem IsNumeric.sublist {s t : List Char} (ht : IsNumeric t) (h : s.Sublist t) : IsNumeric s :=
  fun c hc => ht c (h.mem hc)

theorem isNumeric_digits (n : Nat) : IsNumeric (toString n).toList := by
  intro c hc
  rw [Nat.toString_eq_ofList_toDigits, String.toList_ofList] at hc
  simp [isNumeric, Nat.isDigit_of_mem_toDigits (by decide) (by decide) hc]

theorem isNumeric_zeros (n : Nat) : IsNumeric (zeros n) := by
  intro c hc
  rw [List.eq_of_mem_replicate hc]
  rfl

theorem isNumeric_dropTrailingZeros {digits : List Char} (h : IsNumeric digits) :
    IsNumeric (dropTrailingZeros digits) := fun c hc =>
  h c (List.mem_reverse.mp ((List.dropWhile_sublist _).mem (List.mem_reverse.mp hc)))

theorem isNumeric_positional {digits : List Char} (h : IsNumeric digits) (point : Int) :
    IsNumeric (positional digits point) ∧ '.' ∈ positional digits point := by
  have hpoint : IsNumeric ['.'] := isNumeric_iff_all.mpr rfl
  have hfront : IsNumeric ['0', '.'] := isNumeric_iff_all.mpr rfl
  have hback : IsNumeric ['.', '0'] := isNumeric_iff_all.mpr rfl
  unfold positional
  split_ifs
  · exact ⟨(hfront.append (isNumeric_zeros _)).append h, by simp⟩
  · exact ⟨(h.append (isNumeric_zeros _)).append hback, by simp⟩
  · have htake := h.sublist (List.take_sublist point.toNat digits)
    have hdrop := h.sublist (List.drop_sublist point.toNat digits)
    exact ⟨htake.append (hpoint.append hdrop), by simp⟩

theorem isNumeric_scientific {digits : List Char} (h : IsNumeric digits) (exponent : Int) :
    IsNumeric (scientific digits exponent) ∧ 'e' ∈ scientific digits exponent := by
  have hpoint : IsNumeric ['.'] := isNumeric_iff_all.mpr rfl
  have hsign : IsNumeric ['e', if exponent < 0 then '-' else '+'] := by
    rw [isNumeric_iff_all]
    split_ifs <;> rfl
  have hexponent : IsNumeric (exponentText exponent) :=
    (hsign.append (isNumeric_zeros _)).append (isNumeric_digits _)
  have hbehind : IsNumeric (if digits.length ≤ 1 then [] else '.' :: digits.drop 1) := by
    split_ifs
    · exact fun c hc => absurd hc List.not_mem_nil
    · exact hpoint.append (h.sublist (List.drop_sublist 1 digits))
  exact ⟨((h.sublist (List.take_sublist 1 digits)).append hbehind).append hexponent,
    by simp [scientific, exponentText]⟩

theorem isNumeric_unsignedText (m : Nat) (e : Int) : IsNumeric (unsignedText m e) ∧
    ('.' ∈ unsignedText m e ∨ 'e' ∈ unsignedText m e) := by
  by_cases hm : m = 0
  · rw [unsignedText, if_pos hm]
    exact ⟨isNumeric_iff_all.mpr rfl, .inl (by decide)⟩
  · let all := (toString (shortest m e).1).toList
    let point : Int := all.length + (shortest m e).2
    have hdigits : IsNumeric (dropTrailingZeros all) :=
      isNumeric_dropTrailingZeros (isNumeric_digits _)
    have htext : unsignedText m e =
        if -4 < point ∧ point ≤ 16 then positional (dropTrailingZeros all) point
        else scientific (dropTrailingZeros all) (point - 1) := by
      rw [unsignedText, if_neg hm]
    rw [htext]
    split_ifs
    · exact (isNumeric_positional hdigits point).imp_right .inl
    · exact (isNumeric_scientific hdigits (point - 1)).imp_right .inr

/-- A finite number has a point or an exponent. -/
theorem text_finite (negative : Bool) (m : Nat) (e : Int) :
    IsNumeric (finite negative m e).text.toList ∧
      ('.' ∈ (finite negative m e).text.toList ∨ 'e' ∈ (finite negative m e).text.toList) := by
  have hsign : IsNumeric (if negative then ['-'] else []) := by
    rw [isNumeric_iff_all]
    cases negative <;> rfl
  have hunsigned := isNumeric_unsignedText m e
  rw [text, String.toList_ofList]
  refine ⟨hsign.append hunsigned.1, ?_⟩
  simp only [List.mem_append]
  exact hunsigned.2.imp .inr .inr

theorem agrees_iff {x y : Double} :
    x.agrees y = true ↔ x ≠ nan ∧ (x.isZero = true ∧ y.isZero = true ∨ x = y) := by
  cases x with
  | nan => simp [agrees]
  | infinite negative => simp [agrees]
  | finite negative m e => simp [agrees]

theorem ne_nan_of_isZero {x : Double} (h : x.isZero = true) : x ≠ nan := by
  rintro rfl
  cases h

theorem agrees_of_agrees {x y : Double} (h : x.agrees y = true) : y.agrees x = true := by
  rw [agrees_iff] at h ⊢
  obtain ⟨hx, hzero | rfl⟩ := h
  · exact ⟨ne_nan_of_isZero hzero.2, .inl hzero.symm⟩
  · exact ⟨hx, .inr rfl⟩

theorem agrees_comm (x y : Double) : x.agrees y = y.agrees x :=
  Bool.eq_iff_iff.mpr ⟨agrees_of_agrees, agrees_of_agrees⟩

theorem agrees_trans {x y z : Double} (h : x.agrees y = true) (h' : y.agrees z = true) :
    x.agrees z = true := by
  rw [agrees_iff] at h h' ⊢
  obtain ⟨hx, hxy | rfl⟩ := h
  · obtain ⟨-, hyz | rfl⟩ := h'
    · exact ⟨hx, .inl ⟨hxy.1, hyz.2⟩⟩
    · exact ⟨hx, .inl hxy⟩
  · exact h'

/-- Numbers that agree are the same whole number, if any. -/
theorem toInt?_eq_of_agrees {x y : Double} (h : x.agrees y = true) : x.toInt? = y.toInt? := by
  have hzero {z : Double} (hz : z.isZero = true) : z.toInt? = some 0 := by
    unfold isZero at hz
    split at hz
    · next negative e =>
      have hmagnitude : (magnitude 0 e).1 = 0 := by
        unfold magnitude scaleRatio
        split_ifs <;> simp
      simp [toInt?, hmagnitude]
    · cases hz
  obtain ⟨-, hxy | rfl⟩ := agrees_iff.mp h
  · rw [hzero hxy.1, hzero hxy.2]
  · rfl

end Double

/-! ### Shapes -/

namespace Shape

variable {α : Type} {a b : Shape α}

theorem sameNumber_comm (x y : Int ⊕ Double) : sameNumber x y = sameNumber y x := by
  cases x <;> cases y <;> simp [sameNumber, Double.agrees_comm, eq_comm]

/-- Numbers of one kind that are the same are the same as the same numbers. -/
theorem sameNumber_congr {x y : Int ⊕ Double} (h : sameNumber x y = true)
    (hkind : x.isLeft = y.isLeft) (z : Int ⊕ Double) : sameNumber z x = sameNumber z y := by
  cases x with
  | inl n =>
    cases y with
    | inl m =>
      obtain rfl : n = m := by simpa [sameNumber] using h
      rfl
    | inr y => cases hkind
  | inr x =>
    cases y with
    | inl m => cases hkind
    | inr y =>
      have hxy : x.agrees y = true := h
      cases z with
      | inl n => simp [sameNumber, Double.toInt?_eq_of_agrees hxy]
      | inr z =>
        exact Bool.eq_iff_iff.mpr ⟨fun hz => Double.agrees_trans hz hxy,
          fun hz => Double.agrees_trans hz (Double.agrees_of_agrees hxy)⟩

theorem agrees_comm (a b : Shape α) : a.agrees b = b.agrees a := by
  cases a <;> cases b <;>
    simp [agrees, number?, Moment.agrees, sameNumber_comm, Bool.beq_comm]

/-- Whether a value is a number that may have a fraction. -/
def isFraction : Shape α → Bool
  | float _ => true
  | _ => false

theorem isLeft_of_number? {x : Int ⊕ Double} (h : a.number? = some x) :
    x.isLeft = !a.isFraction := by
  cases a <;> simp_all [number?, isFraction] <;> simp [← h]

/-- Values that agree agree with the same values, unless just one of them is a fraction. -/
theorem agrees_congr (h : a.agrees b = true) (hkind : a.isFraction = b.isFraction) (c : Shape α) :
    c.agrees a = c.agrees b := by
  cases hx : a.number? with
  | some x =>
    cases hy : b.number? with
    | none => simp [agrees, hx, hy] at h
    | some y =>
      have hxy : sameNumber x y = true := by simpa [agrees, hx, hy] using h
      have hside : x.isLeft = y.isLeft := by
        rw [isLeft_of_number? hx, isLeft_of_number? hy, hkind]
      cases hz : c.number? <;> simp [agrees, hx, hy, hz, sameNumber_congr hxy hside]
  | none =>
    -- What is no number agrees with its own kind alone, and only moments in more than one form.
    cases a <;> cases b <;> simp_all [agrees, number?, Moment.agrees]
    cases c <;> simp [h]

/-- What a fraction agrees with that is none. -/
theorem cases_of_isFraction (h : a.agrees b = true) (ha : a.isFraction = true)
    (hb : b.isFraction = false) :
    (∃ negative m e, a = float (.finite negative m e)) ∧
      ((∃ c, b = bool c) ∨ ∃ n, b = int n) := by
  cases a with
  | float x =>
    cases b with
    | bool c => cases x <;> simp_all [agrees, number?, sameNumber, Double.toInt?]
    | int n => cases x <;> simp_all [agrees, number?, sameNumber, Double.toInt?]
    | float y => cases hb
    | _ => cases h
  | _ => cases ha

end Shape

/-! ### Keys that read alike -/

namespace Value

variable {v w : Value}

theorem text_of_bool {b : Bool} (h : v.heap.look v.place = .bool b) :
    v.text = .ok (if b then "True" else "False") := by
  simp [text, literal, view, h, Shape.onParts, Heap.literalFrom, Shape.literalWith]

theorem text_of_float {x : Double} (h : v.heap.look v.place = .float x) :
    v.text = .ok x.text := by
  simp [text, literal, view, h, Shape.onParts, Heap.literalFrom, Shape.literalWith]

/-- A fraction reads otherwise than the whole number that it agrees with. -/
theorem text_ne_of_isFraction (h : (v.heap.look v.place).agrees (w.heap.look w.place) = true)
    (hv : (v.heap.look v.place).isFraction = true)
    (hw : (w.heap.look w.place).isFraction = false) : v.text ≠ w.text := by
  obtain ⟨⟨negative, m, e, hx⟩, ⟨b, hb⟩ | ⟨n, hn⟩⟩ := Shape.cases_of_isFraction h hv hw
  · have hnumeric := (Double.text_finite negative m e).1
    rw [text_of_float hx, text_of_bool hb]
    intro heq
    have htext : ((Double.finite negative m e).text : Text) =
        Text.ofString (if b then "True" else "False") := by
      cases b <;> exact Except.ok.inj heq
    rw [Text.ofString_injective htext] at hnumeric
    have hword : ¬ Double.IsNumeric (if b then "True" else "False").toList := by
      rw [Double.isNumeric_iff_all]
      cases b <;> decide
    exact hword hnumeric
  · have hmark := (Double.text_finite negative m e).2
    rw [text_of_float hx, text_of_int hn]
    unfold intText
    split
    · nofun
    · intro heq
      have htext := Except.ok.inj heq
      rw [← Text.mem_ofString, ← Text.mem_ofString, htext] at hmark
      exact hmark.elim (Text.notMem_int rfl (by decide) n) (Text.notMem_int rfl (by decide) n)

/-- Whether two values of one heap are the same key of a mapping. -/
def sameKey (v w : Value) : Bool := v.heap.sameKey v.place w.place

end Value

namespace Heap

variable (h : Heap) {p q : Place}

theorem sameKey_comm (p q : Place) : h.sameKey p q = h.sameKey q p := by
  rw [sameKey, sameKey, Shape.agrees_comm, Bool.beq_comm]

/-- Keys that are the same and read alike are the same as the same keys. -/
theorem sameKey_congr (hsame : h.sameKey p q = true)
    (htext : (Value.mk h p).text = (Value.mk h q).text) (c : Place) :
    h.sameKey c p = h.sameKey c q := by
  unfold sameKey at hsame ⊢
  by_cases hpq : p = q
  · rw [hpq]
  have hagree : (h.look p).agrees (h.look q) = true := by simpa [hpq] using hsame
  have hkind : (h.look p).isFraction = (h.look q).isFraction := by
    cases hp : (h.look p).isFraction with
    | true =>
      cases hq : (h.look q).isFraction with
      | true => rfl
      | false => exact absurd htext (Value.text_ne_of_isFraction hagree hp hq)
    | false =>
      cases hq : (h.look q).isFraction with
      | false => rfl
      | true =>
        rw [Shape.agrees_comm] at hagree
        exact absurd htext.symm (Value.text_ne_of_isFraction hagree hq hp)
  have hcongr := Shape.agrees_congr hagree hkind
  by_cases hcp : c = p
  · simp [hcp, hagree]
  · by_cases hcq : c = q
    · have hback : (h.look q).agrees (h.look p) = true := by rw [Shape.agrees_comm, hagree]
      simp [hcq, hback]
    · rw [Bool.eq_iff_iff]
      simp [hcp, hcq, hcongr]

end Heap

namespace Value

variable {u v w : Value}

theorem sameKey_comm (hheap : v.heap = w.heap) : v.sameKey w = w.sameKey v := by
  rw [sameKey, sameKey, hheap, Heap.sameKey_comm]

theorem sameKey_congr (hu : u.heap = v.heap) (hw : w.heap = v.heap) (hsame : v.sameKey w = true)
    (htext : v.text = w.text) : u.sameKey v = u.sameKey w := by
  rw [sameKey, sameKey, hu]
  refine v.heap.sameKey_congr hsame ?_ u.place
  rw [htext, ← hw]

end Value

namespace Heap

variable (h : Heap)

/-! ### Entries -/

/-- The entry that a key leads to. -/
def entryOf (entries : List (Place × Place)) (key : Place) : Option (Place × Place) :=
  entries.find? fun entry => h.sameKey entry.1 key

theorem entryOf_cons_of_same {entry : Place × Place} {key : Place}
    (hsame : h.sameKey entry.1 key = true) (rest : List (Place × Place)) :
    h.entryOf (entry :: rest) key = some entry := by
  simp [entryOf, hsame]

theorem entryOf_cons_of_other {entry : Place × Place} {key : Place}
    (hother : ¬ h.sameKey entry.1 key = true) (rest : List (Place × Place)) :
    h.entryOf (entry :: rest) key = h.entryOf rest key := by
  simp [entryOf, hother]

theorem entryOf_bind_self (key value : Place) (entries : List (Place × Place)) :
    ∃ kept, h.entryOf (h.bind key value entries) key = some (kept, value) := by
  induction entries with
  | nil => exact ⟨key, h.entryOf_cons_of_same (h.sameKey_self key) []⟩
  | cons entry rest ih =>
    unfold bind
    split
    · next hsame =>
      have hnew : h.sameKey (entry.1, value).1 key = true := hsame
      exact ⟨entry.1, h.entryOf_cons_of_same hnew rest⟩
    · next hother =>
      rw [h.entryOf_cons_of_other hother]
      exact ih

/-- Whatever else is bound, a key leads to the same entry, which may have another value then. -/
theorem entryOf_bind {entries : List (Place × Place)} {key kept value : Place}
    (hfound : h.entryOf entries key = some (kept, value)) (other new : Place) :
    h.entryOf (h.bind other new entries) key = some (kept, value) ∨
      h.entryOf (h.bind other new entries) key = some (kept, new) := by
  induction entries with
  | nil => cases hfound
  | cons entry rest ih =>
    unfold bind
    by_cases hkey : h.sameKey entry.1 key = true
    · rw [h.entryOf_cons_of_same hkey] at hfound
      obtain rfl := Option.some.inj hfound
      split
      · have hnew : h.sameKey (kept, new).1 key = true := hkey
        exact .inr (h.entryOf_cons_of_same hnew rest)
      · exact .inl (h.entryOf_cons_of_same hkey _)
    · rw [h.entryOf_cons_of_other hkey] at hfound
      split
      · have hnew : ¬ h.sameKey (entry.1, new).1 key = true := hkey
        exact .inl ((h.entryOf_cons_of_other hnew rest).trans hfound)
      · rw [h.entryOf_cons_of_other hkey]
        exact ih hfound

theorem entryOf_foldl {entries : List (Place × Place)} {key kept value : Place}
    (hfound : h.entryOf entries key = some (kept, value)) (pairs : List (Place × Place)) :
    ∃ last, (last = value ∨ last ∈ pairs.map Prod.snd) ∧
      h.entryOf (pairs.foldl (fun entries pair => h.bind pair.1 pair.2 entries) entries) key =
        some (kept, last) := by
  induction pairs generalizing entries value with
  | nil => exact ⟨value, .inl rfl, hfound⟩
  | cons pair rest ih =>
    rw [List.foldl_cons, List.map_cons]
    rcases h.entryOf_bind hfound pair.1 pair.2 with hsame | hnew
    · obtain ⟨last, hvalue, hlast⟩ := ih hsame
      exact ⟨last, hvalue.imp_right (List.mem_cons_of_mem _), hlast⟩
    · obtain ⟨last, rfl | hvalue, hlast⟩ := ih hnew
      · exact ⟨pair.2, .inr List.mem_cons_self, hlast⟩
      · exact ⟨last, .inr (List.mem_cons_of_mem _ hvalue), hlast⟩

/-- The entry that a key leads to has a value that was written with the key or later. -/
theorem entryOf_ofPairs (before : List (Place × Place)) (pair : Place × Place)
    (after : List (Place × Place)) :
    ∃ kept, ∃ last ∈ (pair :: after).map Prod.snd,
      h.entryOf (h.ofPairs (before ++ pair :: after)) pair.1 = some (kept, last) := by
  rw [ofPairs, List.foldl_append, List.foldl_cons]
  obtain ⟨kept, hkept⟩ := h.entryOf_bind_self pair.1 pair.2
    (before.foldl (fun entries pair => h.bind pair.1 pair.2 entries) [])
  obtain ⟨last, hvalue, hlast⟩ := h.entryOf_foldl hkept after
  exact ⟨kept, last, List.mem_cons.mpr hvalue, hlast⟩

/-! ### Heaps with the same keys -/

section Congr

variable {h h' : Heap}

theorem bind_congr {key value : Place} {entries : List (Place × Place)}
    (hkey : h'.look key = h.look key)
    (hentries : ∀ entry ∈ entries, h'.look entry.1 = h.look entry.1) :
    h'.bind key value entries = h.bind key value entries := by
  induction entries with
  | nil => rfl
  | cons entry rest ih =>
    rw [List.forall_mem_cons] at hentries
    rw [bind, bind, ih hentries.2, sameKey, sameKey, hkey, hentries.1]

theorem exists_key_of_mem_bind {key value : Place} {entries : List (Place × Place)}
    {entry : Place × Place} (hmem : entry ∈ h.bind key value entries) :
    entry.1 = key ∨ ∃ old ∈ entries, old.1 = entry.1 := by
  induction entries with
  | nil =>
    obtain rfl := List.mem_singleton.mp hmem
    exact .inl rfl
  | cons first rest ih =>
    unfold bind at hmem
    split at hmem
    · rcases List.mem_cons.mp hmem with rfl | hmem
      · exact .inr ⟨first, List.mem_cons_self, rfl⟩
      · exact .inr ⟨entry, List.mem_cons_of_mem _ hmem, rfl⟩
    · rcases List.mem_cons.mp hmem with rfl | hmem
      · exact .inr ⟨entry, List.mem_cons_self, rfl⟩
      · exact (ih hmem).imp_right fun ⟨old, hold, hkey⟩ => ⟨old, List.mem_cons_of_mem _ hold, hkey⟩

/-- Only the shapes of keys matter to the entries that pairs give. -/
theorem ofPairs_congr {pairs : List (Place × Place)}
    (hpairs : ∀ pair ∈ pairs, h'.look pair.1 = h.look pair.1) :
    h'.ofPairs pairs = h.ofPairs pairs := by
  have hfold (entries : List (Place × Place))
      (hentries : ∀ entry ∈ entries, h'.look entry.1 = h.look entry.1) :
      pairs.foldl (fun entries pair => h'.bind pair.1 pair.2 entries) entries =
        pairs.foldl (fun entries pair => h.bind pair.1 pair.2 entries) entries := by
    induction pairs generalizing entries with
    | nil => rfl
    | cons pair rest ih =>
      rw [List.forall_mem_cons] at hpairs
      rw [List.foldl_cons, List.foldl_cons, bind_congr hpairs.1 hentries]
      refine ih hpairs.2 _ fun entry hentry => ?_
      rcases exists_key_of_mem_bind hentry with hkey | ⟨old, hold, hkey⟩
      · rw [hkey, hpairs.1]
      · rw [← hkey, hentries old hold]
  exact hfold [] nofun

end Congr

end Heap
end BuildDispatch
