import Mathlib.Data.List.Infix
import BuildDispatch.Proofs.Text.Split
import BuildDispatch.Text.Utf8

/-!
# The rule of longest parts

Which characters octets are read as when what is ill-formed is replaced: `Utf8.Replaces` says so by
the octets of characters alone, without a machine. What is read next is the longest beginning of a
character, or one octet where not even that begins one; unless it is a whole character, U+FFFD
stands for it.

The machine that decodes reads all octets by this rule, and the rule reads them in one way only. A
newline is a character that continues no other, so octets may be decoded line by line.

## Main statements

* `Utf8.replaces_iff`: the rule and the machine agree.
* `Utf8.decodeLossy_flatten`: decoding the lines of a text one by one.
* `Utf8.encode_injective`: no two texts have the same octets, even with surrogates in them.
-/

namespace BuildDispatch.Utf8

open String (utf8EncodeChar)

/-! ### The rule -/

/-- The octets begin some character. -/
def Begins (part : Octets) : Prop := ∃ c, part <+: utf8EncodeChar c

/-- What is read next of the octets `part ++ rest`. -/
structure Longest (part rest : Octets) : Prop where
  ne_nil : part ≠ []
  begins : Begins part ∨ part.length = 1
  stops : ∀ b, rest.head? = some b → ¬ Begins (part ++ [b])

/-- The characters that octets are read as. -/
inductive Replaces : Octets → List Char → Prop
  | nil : Replaces [] []
  | char (c : Char) {rest : Octets} {cs : List Char} (hrest : Replaces rest cs) :
    Replaces (utf8EncodeChar c ++ rest) (c :: cs)
  | illFormed {part rest : Octets} {cs : List Char} (hpart : Longest part rest)
    (hill : ∀ c, part ≠ utf8EncodeChar c) (hrest : Replaces rest cs) :
    Replaces (part ++ rest) ('\uFFFD' :: cs)

theorem Begins.of_prefix {part whole : Octets} (h : Begins whole) (hpart : part <+: whole) :
    Begins part := by
  obtain ⟨c, hc⟩ := h
  exact ⟨c, hpart.trans hc⟩

/-- The octets of a character tell it from all others, whatever follows. -/
theorem utf8EncodeChar_append_inj {c d : Char} {k l : Octets}
    (h : utf8EncodeChar c ++ k = utf8EncodeChar d ++ l) : c = d ∧ k = l := by
  have read : ∀ (c : Char) (l : Octets),
      (utf8EncodeChar c ++ l).toByteArray.utf8DecodeChar? 0 = some c := by
    intro c l
    simpa [List.utf8Encode] using
      @List.utf8DecodeChar?_utf8Encode_singleton_append l.toByteArray c
  obtain rfl : c = d := Option.some.inj ((read c k).symm.trans (h ▸ read d l))
  exact ⟨rfl, List.append_cancel_left h⟩

/-- No character begins with all of another one and more. -/
theorem longest_utf8EncodeChar (c : Char) (rest : Octets) : Longest (utf8EncodeChar c) rest where
  ne_nil := String.utf8EncodeChar_ne_nil
  begins := .inl ⟨c, List.prefix_rfl⟩
  stops b _ := by
    rintro ⟨d, tail, h⟩
    have hd : utf8EncodeChar c ++ ([b] ++ tail) = utf8EncodeChar d ++ [] := by simpa using h
    exact absurd (utf8EncodeChar_append_inj hd).2 (by simp)

theorem Longest.eq_nil_of_append {part tail rest : Octets} (h : Longest part (tail ++ rest))
    (h' : Longest (part ++ tail) rest) : tail = [] := by
  cases tail with
  | nil => rfl
  | cons b tail =>
    refine absurd ?_ (h.stops b rfl)
    rcases h'.begins with hbegins | hone
    · exact hbegins.of_prefix ⟨tail, by simp⟩
    · have hpos := List.length_pos_iff.mpr h.ne_nil
      simp at hone
      omega

theorem Longest.unique {part part' rest rest' : Octets} (h : Longest part rest)
    (h' : Longest part' rest') (heq : part ++ rest = part' ++ rest') :
    part = part' ∧ rest = rest' := by
  rcases List.append_eq_append_iff.mp heq with ⟨tail, rfl, rfl⟩ | ⟨tail, rfl, rfl⟩
  · obtain rfl := h.eq_nil_of_append h'
    simp
  · obtain rfl := h'.eq_nil_of_append h
    simp

/-- The rule reads octets in one way only. -/
theorem Replaces.unique {octets : Octets} {cs ds : List Char} (hc : Replaces octets cs)
    (hd : Replaces octets ds) : cs = ds := by
  induction hc generalizing ds with
  | nil =>
    generalize h : ([] : Octets) = octets at hd
    cases hd with
    | nil => rfl
    | char c => simp at h
    | illFormed hpart => simp [hpart.ne_nil] at h
  | @char c rest cs _ ih =>
    generalize h : utf8EncodeChar c ++ rest = octets at hd
    cases hd with
    | nil => simp at h
    | char d hrest =>
      obtain ⟨rfl, rfl⟩ := utf8EncodeChar_append_inj h
      rw [ih hrest]
    | illFormed hpart hill _ =>
      exact absurd ((longest_utf8EncodeChar c rest).unique hpart h).1.symm (hill c)
  | @illFormed part rest cs hpart hill _ ih =>
    generalize h : part ++ rest = octets at hd
    cases hd with
    | nil => simp [hpart.ne_nil] at h
    | char d _ => exact absurd (hpart.unique (longest_utf8EncodeChar d _) h).1 (hill d)
    | illFormed hpart' _ hrest =>
      obtain ⟨rfl, rfl⟩ := hpart.unique hpart' h
      rw [ih hrest]

/-! ### The octets of a number -/

/-- The octets that a number is written with. -/
inductive Encoded (n : Nat) : Octets → Prop
  | one {b : UInt8} (hb : b.toNat = n) (hn : n < 0x80) : Encoded n [b]
  | two {b₀ b₁ : UInt8} (h₀ : b₀.toNat = 0xC0 + n / 64) (h₁ : b₁.toNat = 0x80 + n % 64)
    (hn : 0x80 ≤ n ∧ n < 0x800) : Encoded n [b₀, b₁]
  | three {b₀ b₁ b₂ : UInt8} (h₀ : b₀.toNat = 0xE0 + n / 64 / 64)
    (h₁ : b₁.toNat = 0x80 + n / 64 % 64) (h₂ : b₂.toNat = 0x80 + n % 64)
    (hn : 0x800 ≤ n ∧ n < 0x10000) : Encoded n [b₀, b₁, b₂]
  | four {b₀ b₁ b₂ b₃ : UInt8} (h₀ : b₀.toNat = 0xF0 + n / 64 / 64 / 64)
    (h₁ : b₁.toNat = 0x80 + n / 64 / 64 % 64) (h₂ : b₂.toNat = 0x80 + n / 64 % 64)
    (h₃ : b₃.toNat = 0x80 + n % 64) (hn : 0x10000 ≤ n ∧ n < 0x110000) :
    Encoded n [b₀, b₁, b₂, b₃]

theorem encoded (c : Char) : Encoded c.toNat (utf8EncodeChar c) := by
  have hlt : c.toNat < 0x110000 := by
    have hvalid : c.toNat < 0xD800 ∨ 0xDFFF < c.toNat ∧ c.toNat < 0x110000 := c.valid
    omega
  unfold utf8EncodeChar
  simp only [Char.toNat_val]
  split
  · exact .one (by rw [UInt8.toNat_ofNat']; omega) (by omega)
  split
  · exact .two (by rw [UInt8.toNat_ofNat']; omega) (by rw [UInt8.toNat_ofNat']; omega) (by omega)
  split
  · exact .three (by rw [UInt8.toNat_ofNat']; omega) (by rw [UInt8.toNat_ofNat']; omega)
      (by rw [UInt8.toNat_ofNat']; omega) (by omega)
  · exact .four (by rw [UInt8.toNat_ofNat']; omega) (by rw [UInt8.toNat_ofNat']; omega)
      (by rw [UInt8.toNat_ofNat']; omega) (by rw [UInt8.toNat_ofNat']; omega) (by omega)

theorem Encoded.unique {n : Nat} {k l : Octets} (hk : Encoded n k) (hl : Encoded n l) :
    k = l := by
  cases hk with
  | one h₀ hn =>
    cases hl with
    | one h₀' => rw [UInt8.toNat_inj.mp (h₀.trans h₀'.symm)]
    | _ => omega
  | two h₀ h₁ hn =>
    cases hl with
    | two h₀' h₁' =>
      rw [UInt8.toNat_inj.mp (h₀.trans h₀'.symm), UInt8.toNat_inj.mp (h₁.trans h₁'.symm)]
    | _ => omega
  | three h₀ h₁ h₂ hn =>
    cases hl with
    | three h₀' h₁' h₂' =>
      rw [UInt8.toNat_inj.mp (h₀.trans h₀'.symm), UInt8.toNat_inj.mp (h₁.trans h₁'.symm),
        UInt8.toNat_inj.mp (h₂.trans h₂'.symm)]
    | _ => omega
  | four h₀ h₁ h₂ h₃ hn =>
    cases hl with
    | four h₀' h₁' h₂' h₃' =>
      rw [UInt8.toNat_inj.mp (h₀.trans h₀'.symm), UInt8.toNat_inj.mp (h₁.trans h₁'.symm),
        UInt8.toNat_inj.mp (h₂.trans h₂'.symm), UInt8.toNat_inj.mp (h₃.trans h₃'.symm)]
    | _ => omega

theorem Encoded.eq {n : Nat} {octets : Octets} (h : Encoded n octets) (hn : n.isValidChar) :
    octets = utf8EncodeChar (Char.ofNat n) := by
  have hnumber : (Char.ofNat n).toNat = n := by
    rw [Char.ofNat, dif_pos hn]
    rfl
  have henc := encoded (Char.ofNat n)
  rw [hnumber] at henc
  exact h.unique henc

/-! ### Inside of a character -/

/-- The number that further octets make of a code. -/
def number (code : Nat) (tail : Octets) : Nat :=
  tail.foldl (fun n b => n * 64 + (b.toNat - 0x80)) code

theorem number_cons (code : Nat) (b : UInt8) (tail : Octets) :
    number code (b :: tail) = number (code * 64 + (b.toNat - 0x80)) tail :=
  List.foldl_cons ..

/-- Octets that go on with a character, the first of them within limits of its own. -/
def Continues (low high : Nat) : Octets → Prop
  | [] => True
  | b :: tail => (low ≤ b.toNat ∧ b.toNat ≤ high) ∧ ∀ c ∈ tail, 0x80 ≤ c.toNat ∧ c.toNat ≤ 0xBF

theorem continues_iff {tail : Octets} :
    Continues 0x80 0xBF tail ↔ ∀ c ∈ tail, 0x80 ≤ c.toNat ∧ c.toNat ≤ 0xBF := by
  cases tail with
  | nil => simp [Continues]
  | cons b tail => simp [Continues]

/-- What is known inside of a character: the octets read so far, and which ones are still due. -/
structure Expects (part : Octets) (missing low high code : Nat) : Prop where
  range : 0x80 ≤ low ∧ low ≤ high ∧ high ≤ 0xBF
  completed : ∀ c tail, utf8EncodeChar c = part ++ tail →
    tail.length = missing ∧ Continues low high tail ∧ number code tail = c.toNat
  completes : ∀ tail, tail.length = missing → Continues low high tail →
    part ++ tail = utf8EncodeChar (Char.ofNat (number code tail))

theorem expects_two {b : UInt8} {code : Nat} (hb : b.toNat = 0xC0 + code)
    (hcode : 2 ≤ code ∧ code < 32) : Expects [b] 1 0x80 0xBF code where
  range := by omega
  completed c tail h := by
    have henc := encoded c
    rw [h] at henc
    generalize c.toNat = n at henc
    cases henc with
    | one => omega
    | two h₀ h₁ hn =>
      simp only [Continues, number, List.foldl]
      exact ⟨rfl, ⟨by omega, nofun⟩, by omega⟩
    | three => omega
    | four => omega
  completes tail hlen hcont := by
    obtain ⟨b₁, rfl⟩ := List.length_eq_one_iff.mp hlen
    simp only [Continues, number, List.foldl] at hcont ⊢
    have henc : Encoded (code * 64 + (b₁.toNat - 0x80)) [b, b₁] :=
      .two (by omega) (by omega) (by omega)
    exact henc.eq (.inl (by omega))

/-- The limits of the second octet keep numbers out that have a shorter form or are surrogates. -/
theorem expects_three {b : UInt8} {low high code : Nat} (hb : b.toNat = 0xE0 + code)
    (hcode : code < 16) (hrange : 0x80 ≤ low ∧ low ≤ high ∧ high ≤ 0xBF)
    (hlimits : ∀ n, n / 64 / 64 = code →
      (low ≤ 0x80 + n / 64 % 64 ∧ 0x80 + n / 64 % 64 ≤ high ↔ 0x800 ≤ n ∧ n.isValidChar)) :
    Expects [b] 2 low high code where
  range := hrange
  completed c tail h := by
    have henc := encoded c
    have hvalid : c.toNat.isValidChar := c.valid
    rw [h] at henc
    generalize c.toNat = n at henc hvalid
    cases henc with
    | one => omega
    | two => omega
    | three h₀ h₁ h₂ hn =>
      have hlow := (hlimits n (by omega)).mpr ⟨hn.1, hvalid⟩
      simp only [Continues, number, List.foldl, List.forall_mem_singleton]
      exact ⟨rfl, ⟨by omega, by omega⟩, by omega⟩
    | four => omega
  completes tail hlen hcont := by
    obtain ⟨b₁, b₂, rfl⟩ := List.length_eq_two.mp hlen
    simp only [Continues, number, List.foldl, List.forall_mem_singleton] at hcont ⊢
    have hn := (hlimits ((code * 64 + (b₁.toNat - 0x80)) * 64 + (b₂.toNat - 0x80))
      (by omega)).mp (by omega)
    exact Encoded.eq (.three (by omega) (by omega) (by omega) (by omega)) hn.2

/-- The limits of the second octet keep numbers out that have a shorter form or are too large. -/
theorem expects_four {b : UInt8} {low high code : Nat} (hb : b.toNat = 0xF0 + code)
    (hcode : code < 5) (hrange : 0x80 ≤ low ∧ low ≤ high ∧ high ≤ 0xBF)
    (hlimits : ∀ n, n / 64 / 64 / 64 = code →
      (low ≤ 0x80 + n / 64 / 64 % 64 ∧ 0x80 + n / 64 / 64 % 64 ≤ high ↔
        0x10000 ≤ n ∧ n < 0x110000)) : Expects [b] 3 low high code where
  range := hrange
  completed c tail h := by
    have henc := encoded c
    rw [h] at henc
    generalize c.toNat = n at henc
    cases henc with
    | one => omega
    | two => omega
    | three => omega
    | four h₀ h₁ h₂ h₃ hn =>
      have hlow := (hlimits n (by omega)).mpr hn
      simp only [Continues, number, List.foldl, List.forall_mem_cons]
      exact ⟨rfl, ⟨by omega, by omega, by omega, nofun⟩, by omega⟩
  completes tail hlen hcont := by
    obtain ⟨b₁, b₂, b₃, rfl⟩ := List.length_eq_three.mp hlen
    simp only [Continues, number, List.foldl, List.forall_mem_cons] at hcont ⊢
    have hn := (hlimits (((code * 64 + (b₁.toNat - 0x80)) * 64 + (b₂.toNat - 0x80)) * 64 +
      (b₃.toNat - 0x80)) (by omega)).mp (by omega)
    exact Encoded.eq (.four (by omega) (by omega) (by omega) (by omega) hn) (.inr (by omega))

theorem not_begins_of_lead {b : UInt8} (hb : 0x80 ≤ b.toNat ∧ b.toNat < 0xC2 ∨ 0xF5 ≤ b.toNat) :
    ¬ Begins [b] := by
  rintro ⟨c, tail, h⟩
  have henc := encoded c
  rw [← h] at henc
  generalize c.toNat = n at henc
  cases henc <;> omega

/-- What a first octet comes to: a character, the inside of one, or nothing that begins one. -/
inductive Leads (b : UInt8) : Reading × State → Prop
  | char (hchar : utf8EncodeChar (Char.ofNat b.toNat) = [b]) :
    Leads b ([some (Char.ofNat b.toNat)], .start)
  | inside {missing low high code : Nat} (hm : 0 < missing)
    (h : Expects [b] missing low high code) : Leads b ([], .inside missing low high code)
  | stray (hb : ¬ Begins [b]) : Leads b ([none], .start)

theorem leads_lead (b : UInt8) : Leads b (lead b.toNat) := by
  have hb := b.toNat_lt
  have hvalid : ∀ n, n.isValidChar ↔ n < 0xD800 ∨ 0xDFFF < n ∧ n < 0x110000 := fun _ => .rfl
  unfold lead
  by_cases h₁ : b.toNat < 0x80
  · rw [if_pos h₁]
    have hone : Encoded b.toNat [b] := .one rfl h₁
    exact .char (hone.eq (.inl (by omega))).symm
  rw [if_neg h₁]
  by_cases h₂ : b.toNat < 0xC2
  · rw [if_pos h₂]
    exact .stray (not_begins_of_lead (by omega))
  rw [if_neg h₂]
  by_cases h₃ : b.toNat < 0xE0
  · rw [if_pos h₃]
    exact .inside (by decide) (expects_two (by omega) (by omega))
  rw [if_neg h₃]
  by_cases h₄ : b.toNat = 0xE0
  · rw [if_pos h₄]
    exact .inside (by decide)
      (expects_three (by omega) (by omega) (by omega) (by simp only [hvalid]; omega))
  rw [if_neg h₄]
  by_cases h₅ : b.toNat = 0xED
  · rw [if_pos h₅]
    exact .inside (by decide)
      (expects_three (by omega) (by omega) (by omega) (by simp only [hvalid]; omega))
  rw [if_neg h₅]
  by_cases h₆ : b.toNat < 0xF0
  · rw [if_pos h₆]
    exact .inside (by decide)
      (expects_three (by omega) (by omega) (by omega) (by simp only [hvalid]; omega))
  rw [if_neg h₆]
  by_cases h₇ : b.toNat = 0xF0
  · rw [if_pos h₇]
    exact .inside (by decide) (expects_four (by omega) (by omega) (by omega) (by omega))
  rw [if_neg h₇]
  by_cases h₈ : b.toNat < 0xF4
  · rw [if_pos h₈]
    exact .inside (by decide) (expects_four (by omega) (by omega) (by omega) (by omega))
  rw [if_neg h₈]
  by_cases h₉ : b.toNat = 0xF4
  · rw [if_pos h₉]
    exact .inside (by decide) (expects_four (by omega) (by omega) (by omega) (by omega))
  rw [if_neg h₉]
  exact .stray (not_begins_of_lead (by omega))

section Expects

variable {part : Octets} {missing low high code : Nat} {b : UInt8}

/-- Where octets are due the part is not yet a character. -/
theorem Expects.ne_utf8EncodeChar (h : Expects part missing low high code) (hm : 0 < missing)
    (c : Char) : part ≠ utf8EncodeChar c := by
  rintro rfl
  have hlen := (h.completed c [] (by simp)).1
  simp at hlen
  omega

/-- Only octets within the limits go on. -/
theorem Expects.begins_iff (h : Expects part missing low high code) (hm : 0 < missing) :
    Begins (part ++ [b]) ↔ low ≤ b.toNat ∧ b.toNat ≤ high := by
  constructor
  · rintro ⟨c, tail, hc⟩
    have hcont := (h.completed c (b :: tail) (by simp [← hc])).2.1
    exact hcont.1
  · intro hb
    have hcont : Continues low high (b :: List.replicate (missing - 1) 0x80) := by
      refine ⟨hb, fun c hc => ?_⟩
      rw [List.eq_of_mem_replicate hc]
      decide
    have hlen : (b :: List.replicate (missing - 1) 0x80).length = missing := by
      rw [List.length_cons, List.length_replicate]
      omega
    have hchar := h.completes _ hlen hcont
    exact ⟨_, List.replicate (missing - 1) 0x80, (List.append_assoc ..).trans hchar⟩

theorem Expects.begins (h : Expects part missing low high code) (hm : 0 < missing) :
    Begins part := by
  have hlow : (UInt8.ofNat low).toNat = low := by
    have := h.range
    simp
    omega
  have hlonger := (h.begins_iff hm).mpr ⟨hlow.ge, hlow.le.trans h.range.2.1⟩
  exact hlonger.of_prefix (List.prefix_append _ _)

theorem Expects.longest (h : Expects part missing low high code) (hm : 0 < missing)
    (hne : part ≠ []) {rest : Octets}
    (hstop : ∀ b, rest.head? = some b → ¬ (low ≤ b.toNat ∧ b.toNat ≤ high)) :
    Longest part rest where
  ne_nil := hne
  begins := .inl (h.begins hm)
  stops b hb := mt (h.begins_iff hm).mp (hstop b hb)

/-- The last octet due makes a character. -/
theorem Expects.last (h : Expects part 1 low high code) (hb : low ≤ b.toNat ∧ b.toNat ≤ high) :
    part ++ [b] = utf8EncodeChar (Char.ofNat (code * 64 + (b.toNat - 0x80))) :=
  h.completes [b] rfl ⟨hb, by simp⟩

/-- Any other leads further inside of one. -/
theorem Expects.next (h : Expects part (missing + 1) low high code)
    (hb : low ≤ b.toNat ∧ b.toNat ≤ high) :
    Expects (part ++ [b]) missing 0x80 0xBF (code * 64 + (b.toNat - 0x80)) where
  range := by omega
  completed c tail hc := by
    obtain ⟨hlen, hcont, hnumber⟩ := h.completed c (b :: tail) (by simp [hc])
    rw [number_cons] at hnumber
    exact ⟨Nat.succ.inj hlen, continues_iff.mpr hcont.2, hnumber⟩
  completes tail hlen hcont := by
    rw [List.append_assoc, ← number_cons]
    exact h.completes (b :: tail) (congrArg Nat.succ hlen) ⟨hb, continues_iff.mp hcont⟩

end Expects

/-! ### The machine follows the rule -/

/-- The characters that the rest of some octets is read as, from a state of the machine. -/
def finish (s : State) (rest : Octets) : List Char := (run s rest).map fun c => c.getD '\uFFFD'

theorem decodeLossy_cons (b : UInt8) (rest : Octets) :
    decodeLossy (b :: rest) =
      ((lead b.toNat).1.map fun c => c.getD '\uFFFD') ++ finish (lead b.toNat).2 rest := by
  simp [decodeLossy, finish, run, step]

section Inside

variable {missing low high code : Nat} {b : UInt8} {rest : Octets}

theorem finish_of_last (hb : low ≤ b.toNat ∧ b.toNat ≤ high) :
    finish (.inside 1 low high code) (b :: rest) =
      Char.ofNat (code * 64 + (b.toNat - 0x80)) :: decodeLossy rest := by
  simp [finish, run, step, hb, decodeLossy]

theorem finish_of_next (hb : low ≤ b.toNat ∧ b.toNat ≤ high) :
    finish (.inside (missing + 2) low high code) (b :: rest) =
      finish (.inside (missing + 1) 0x80 0xBF (code * 64 + (b.toNat - 0x80))) rest := by
  simp [finish, run, step, hb]

theorem finish_of_stop (hb : ¬ (low ≤ b.toNat ∧ b.toNat ≤ high)) :
    finish (.inside missing low high code) (b :: rest) = '\uFFFD' :: decodeLossy (b :: rest) := by
  rw [decodeLossy_cons]
  simp [finish, run, step, hb]

end Inside

/-- The induction is on what is left to read. What comes behind the character is read by the rule
because it is shorter than the whole. -/
theorem replaces_finish {part rest : Octets} {missing low high code : Nat}
    (h : Expects part missing low high code) (hm : 0 < missing) (hne : part ≠ [])
    (hrec : ∀ octets : Octets, octets.length ≤ rest.length →
      Replaces octets (decodeLossy octets)) :
    Replaces (part ++ rest) (finish (.inside missing low high code) rest) := by
  induction rest generalizing part missing low high code with
  | nil => exact .illFormed (h.longest hm hne (by simp)) (h.ne_utf8EncodeChar hm) .nil
  | cons b rest ih =>
    by_cases hb : low ≤ b.toNat ∧ b.toNat ≤ high
    · have hwhole : part ++ b :: rest = (part ++ [b]) ++ rest := by simp
      obtain _ | _ | missing := missing
      · omega
      · rw [finish_of_last hb, hwhole, h.last hb]
        exact .char _ (hrec rest (by simp))
      · rw [finish_of_next hb, hwhole]
        refine ih (h.next hb) (by omega) (by simp) fun octets hlen => hrec octets ?_
        exact hlen.trans (by simp)
    · rw [finish_of_stop hb]
      refine .illFormed (h.longest hm hne ?_) (h.ne_utf8EncodeChar hm) (hrec _ le_rfl)
      simpa using hb

theorem replaces_decodeLossy (octets : Octets) : Replaces octets (decodeLossy octets) := by
  induction hlen : octets.length using Nat.strong_induction_on generalizing octets with
  | _ n ih =>
    cases octets with
    | nil => exact .nil
    | cons b rest =>
      have hrec : ∀ octets : Octets, octets.length ≤ rest.length →
          Replaces octets (decodeLossy octets) :=
        fun octets h => ih octets.length (by simp at hlen; omega) octets rfl
      have hlead := leads_lead b
      rw [decodeLossy_cons]
      generalize lead b.toNat = reading at hlead ⊢
      cases hlead with
      | char hchar =>
        rw [← List.singleton_append, ← hchar]
        exact .char _ (hrec rest le_rfl)
      | inside hm h => exact replaces_finish h hm (List.cons_ne_nil _ _) hrec
      | stray hb =>
        have hpart : Longest [b] rest :=
          ⟨List.cons_ne_nil _ _, .inr rfl, fun c _ hc => hb (hc.of_prefix ⟨[c], rfl⟩)⟩
        exact .illFormed hpart (fun c hc => hb ⟨c, hc ▸ List.prefix_rfl⟩) (hrec rest le_rfl)

theorem replaces_iff {octets : Octets} {cs : List Char} :
    Replaces octets cs ↔ cs = decodeLossy octets :=
  ⟨fun h => h.unique (replaces_decodeLossy octets), fun h => h ▸ replaces_decodeLossy octets⟩

/-! ### Encoded texts -/

theorem replaces_encode (cs : List Char) : Replaces (encode (Text.ofChars cs)) cs := by
  induction cs with
  | nil => exact .nil
  | cons c cs ih => exact .char c ih

/-- What is well-formed is read as it was written. -/
theorem decodeLossy_encode (cs : List Char) : decodeLossy (encode (Text.ofChars cs)) = cs :=
  (replaces_iff.mp (replaces_encode cs)).symm

theorem encode_ofChars_inj {cs ds : List Char} :
    encode (Text.ofChars cs) = encode (Text.ofChars ds) ↔ cs = ds := by
  constructor
  · intro h
    rw [← decodeLossy_encode cs, h, decodeLossy_encode]
  · rintro rfl
    rfl

theorem octetsOf_ne_nil (c : CodePoint) : octetsOf c ≠ [] := by
  cases c with
  | char c => exact String.utf8EncodeChar_ne_nil
  | surrogate offset => exact List.cons_ne_nil _ _

theorem encode_eq_nil_iff {t : Text} : encode t = [] ↔ t = [] := by
  cases t with
  | nil => simp [encode]
  | cons c t => simp [encode, octetsOf_ne_nil]

/-! ### Newlines -/

/-- The octet of a newline. -/
def newline : UInt8 := 0x0A

theorem utf8EncodeChar_newline : utf8EncodeChar '\n' = [newline] := rfl

/-- Beyond ASCII no octet is one of a smaller character. -/
theorem Encoded.toNat_mem {n : Nat} {octets : Octets} (h : Encoded n octets) {b : UInt8}
    (hb : b ∈ octets) : b.toNat = n ∨ 0x80 ≤ b.toNat := by
  cases h <;> simp only [List.mem_cons, List.not_mem_nil, or_false] at hb <;> grind

theorem newline_mem_utf8EncodeChar {c : Char} (h : newline ∈ utf8EncodeChar c) : c = '\n' := by
  rcases (encoded c).toNat_mem h with hc | hc
  · exact Char.toNat_inj.mp hc.symm
  · exact absurd hc (by decide)

theorem not_begins_append_newline {part : Octets} (hne : part ≠ []) :
    ¬ Begins (part ++ [newline]) := by
  rintro ⟨c, tail, h⟩
  obtain rfl : c = '\n' := newline_mem_utf8EncodeChar (h ▸ by simp)
  rw [utf8EncodeChar_newline] at h
  have hlen := congrArg List.length h
  have hpos := List.length_pos_iff.mpr hne
  simp at hlen
  omega

theorem newline_mem_encode {t : Text} (h : newline ∈ encode t) : .char '\n' ∈ t := by
  obtain ⟨c, hc, hmem⟩ := List.mem_flatMap.mp h
  cases c with
  | char c => exact newline_mem_utf8EncodeChar hmem ▸ hc
  | surrogate offset =>
    have hlt := offset.isLt
    simp only [octetsOf, List.mem_cons, List.not_mem_nil, or_false] at hmem
    rcases hmem with h | h | h
    · exact absurd h (by decide)
    · have hnumber := congrArg UInt8.toNat h
      simp [newline] at hnumber
      omega
    · have hnumber := congrArg UInt8.toNat h
      simp [newline] at hnumber
      omega

/-- A newline ends whatever stands in front of it. -/
theorem Replaces.newline {front back : Octets} {cs ds : List Char} (hf : Replaces front cs)
    (hb : Replaces back ds) : Replaces (front ++ newline :: back) (cs ++ '\n' :: ds) := by
  induction hf with
  | nil => exact .char '\n' hb
  | char c _ ih =>
    rw [List.append_assoc]
    exact .char c ih
  | @illFormed part rest cs hpart hill _ ih =>
    rw [List.append_assoc]
    refine .illFormed ⟨hpart.ne_nil, hpart.begins, fun b hb => ?_⟩ hill ih
    cases rest with
    | nil =>
      obtain rfl : Utf8.newline = b := by simpa using hb
      exact not_begins_append_newline hpart.ne_nil
    | cons c rest => exact hpart.stops b hb

theorem decodeLossy_append_newline (front back : Octets) :
    decodeLossy (front ++ newline :: back) = decodeLossy front ++ '\n' :: decodeLossy back :=
  (replaces_iff.mp ((replaces_decodeLossy front).newline (replaces_decodeLossy back))).symm

/-- Lines may be decoded one by one. -/
theorem decodeLossy_flatten {lines : List Octets} (h : Text.IsCut newline lines) :
    decodeLossy lines.flatten = lines.flatMap decodeLossy := by
  induction h with
  | nil => rfl
  | last => simp
  | @cons body lines _ _ ih =>
    have hbody := decodeLossy_append_newline body []
    rw [List.flatten_cons, List.append_assoc, List.singleton_append, decodeLossy_append_newline,
      ih, List.flatMap_cons, hbody]
    simp [decodeLossy, run, flush]

/-! ### The octets of texts -/

/-- The octets of a number tell it from all others, whatever follows. -/
theorem Encoded.append_inj {n m : Nat} {k l x y : Octets} (hk : Encoded n k) (hl : Encoded m l)
    (h : k ++ x = l ++ y) : n = m ∧ x = y := by
  -- The first octets alone tell how many octets there are.
  cases hk with
  | one => cases hl <;> simp at h <;> grind
  | two => cases hl <;> simp at h <;> grind
  | three => cases hl <;> simp at h <;> grind
  | four => cases hl <;> simp at h <;> grind

theorem encoded_octetsOf (c : CodePoint) : Encoded c.toNat (octetsOf c) := by
  cases c with
  | char c => exact encoded c
  | surrogate offset =>
    have hlt := offset.isLt
    have hlead : UInt8.toNat 0xED = 0xED := rfl
    have hnumber : (CodePoint.surrogate offset).toNat = 0xD800 + offset.val := rfl
    rw [hnumber]
    exact .three (by omega) (by rw [UInt8.toNat_ofNat']; omega) (by rw [UInt8.toNat_ofNat']; omega)
      (by omega)

/-- No surrogate has the number of a character. -/
theorem toNat_surrogate_ne (offset : Fin 2048) (c : Char) :
    (CodePoint.surrogate offset).toNat ≠ (CodePoint.char c).toNat := by
  have hlt := offset.isLt
  have hvalid : c.toNat < 0xD800 ∨ 0xDFFF < c.toNat ∧ c.toNat < 0x110000 := c.valid
  simp only [CodePoint.toNat, CodePoint.firstSurrogate]
  omega

theorem toNat_injective {c d : CodePoint} (h : c.toNat = d.toNat) : c = d := by
  cases c with
  | char c =>
    cases d with
    | char d => rw [Char.toNat_inj.mp h]
    | surrogate offset => exact absurd h.symm (toNat_surrogate_ne offset c)
  | surrogate offset =>
    cases d with
    | char d => exact absurd h (toNat_surrogate_ne offset d)
    | surrogate offset' => rw [Fin.ext (Nat.add_left_cancel h)]

theorem encode_injective {t u : Text} (h : encode t = encode u) : t = u := by
  induction t generalizing u with
  | nil => exact (encode_eq_nil_iff.mp h.symm).symm
  | cons c t ih =>
    cases u with
    | nil => exact absurd (encode_eq_nil_iff.mp h) (List.cons_ne_nil c t)
    | cons d u =>
      rw [encode, encode, List.flatMap_cons, List.flatMap_cons] at h
      obtain ⟨hnumber, hrest⟩ := (encoded_octetsOf c).append_inj (encoded_octetsOf d) h
      rw [toNat_injective hnumber, ih hrest]

end BuildDispatch.Utf8
