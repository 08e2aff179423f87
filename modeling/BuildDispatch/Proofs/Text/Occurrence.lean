import Mathlib.Data.List.Infix
import Mathlib.Data.List.TakeWhile
import BuildDispatch.Proofs.Text.Utf8

/-!
# Occurrences in encoded texts

A text occurs in another exactly where its octets occur among the octets of the other. The first
octet of a character is never one of the later octets of another one, so an occurrence of octets
begins where a character begins; and no character goes on where another one ends, so it ends where
a character ends.

## Main statements

* `Utf8.exists_append_of_lead`: encoded characters can only be cut apart between two of them.
* `Utf8.encode_infix_iff`: occurrences of octets are occurrences of characters.
* `Utf8.exists_encodeStrict_iff`: the texts that can be encoded are those without surrogates.
-/

namespace BuildDispatch
namespace Utf8

open String (utf8EncodeChar)

/-! ### Where characters begin -/

/-- An octet that stands inside of a character and begins none. -/
def IsInner (b : UInt8) : Prop := 0x80 ≤ b.toNat ∧ b.toNat < 0xC0

theorem Encoded.exists_lead {n : Nat} {octets : Octets} (h : Encoded n octets) :
    ∃ b tail, octets = b :: tail ∧ ¬ IsInner b ∧ ∀ c ∈ tail, IsInner c := by
  unfold IsInner
  cases h with
  | one hb hn => exact ⟨_, _, rfl, by omega, nofun⟩
  | two h₀ h₁ hn =>
    refine ⟨_, _, rfl, by omega, List.forall_mem_singleton.mpr ?_⟩
    omega
  | three h₀ h₁ h₂ hn =>
    refine ⟨_, _, rfl, by omega, List.forall_mem_cons.mpr ⟨?_, List.forall_mem_singleton.mpr ?_⟩⟩
    · omega
    · omega
  | four h₀ h₁ h₂ h₃ hn =>
    refine ⟨_, _, rfl, by omega, List.forall_mem_cons.mpr ⟨?_, List.forall_mem_cons.mpr
      ⟨?_, List.forall_mem_singleton.mpr ?_⟩⟩⟩
    · omega
    · omega
    · omega

theorem encode_cons (c : Char) (cs : List Char) :
    encode (Text.ofChars (c :: cs)) = utf8EncodeChar c ++ encode (Text.ofChars cs) :=
  List.flatMap_cons ..

theorem encode_append (cs ds : List Char) :
    encode (Text.ofChars (cs ++ ds)) = encode (Text.ofChars cs) ++ encode (Text.ofChars ds) := by
  rw [Text.ofChars_append, encode, encode, encode, List.flatMap_append]

/-- An octet that begins a character has whole characters in front of it and behind it. -/
theorem exists_append_of_lead {cs : List Char} {front back : Octets} {b : UInt8}
    (hb : ¬ IsInner b) (h : encode (Text.ofChars cs) = front ++ b :: back) :
    ∃ before after, cs = before ++ after ∧ encode (Text.ofChars before) = front ∧
      encode (Text.ofChars after) = b :: back := by
  induction cs generalizing front with
  | nil => exact absurd h (by simp [encode, Text.ofChars])
  | cons c cs ih =>
    cases front with
    | nil => exact ⟨[], c :: cs, rfl, rfl, h⟩
    | cons a front =>
      rw [encode_cons] at h
      rcases List.append_eq_append_iff.mp h with ⟨rest, hfront, hrest⟩ | ⟨rest, hchar, hrest⟩
      · -- The first character lies in front of the octet.
        obtain ⟨before, after, rfl, hbefore, hafter⟩ := ih hrest
        exact ⟨c :: before, after, rfl, by rw [encode_cons, hbefore, hfront], hafter⟩
      · cases rest with
        | nil =>
          have hlater : encode (Text.ofChars cs) = [] ++ b :: back := hrest.symm
          obtain ⟨before, after, rfl, hbefore, hafter⟩ := ih hlater
          exact ⟨c :: before, after, rfl, by simp [encode_cons, hbefore, hchar], hafter⟩
        | cons b' rest =>
          -- The octet would be one of the later octets of the first character.
          obtain ⟨rfl, -⟩ := List.cons_eq_cons.mp hrest
          obtain ⟨lead, tail, hlead, -, hinner⟩ := (encoded c).exists_lead
          rw [hlead, List.cons_append] at hchar
          obtain ⟨-, rfl⟩ := List.cons_eq_cons.mp hchar
          exact absurd (hinner b (by simp)) hb

/-- What begins with the octets of a text begins with the text. -/
theorem begins_of_encode {part whole : List Char}
    (h : encode (Text.ofChars part) <+: encode (Text.ofChars whole)) : part <+: whole := by
  induction part generalizing whole with
  | nil => exact List.nil_prefix
  | cons c part ih =>
    obtain ⟨rest, h⟩ := h
    cases whole with
    | nil =>
      rw [encode_cons, List.append_assoc] at h
      exact absurd h (by simp [encode, Text.ofChars])
    | cons d whole =>
      rw [encode_cons, encode_cons, List.append_assoc] at h
      obtain ⟨rfl, htail⟩ := utf8EncodeChar_append_inj h
      exact (List.prefix_cons_inj c).mpr (ih ⟨rest, htail⟩)

/-! ### Occurrences -/

theorem encode_infix_iff {part whole : List Char} :
    encode (Text.ofChars part) <:+: encode (Text.ofChars whole) ↔ part <:+: whole := by
  constructor
  · rintro ⟨front, back, h⟩
    cases part with
    | nil => exact List.nil_infix
    | cons c part =>
      obtain ⟨lead, tail, hlead, hfirst, -⟩ := (encoded c).exists_lead
      -- The occurrence begins with the first octet of a character.
      have hsplit : encode (Text.ofChars whole) =
          front ++ lead :: (tail ++ encode (Text.ofChars part) ++ back) := by
        rw [← h, encode_cons, hlead]
        simp
      obtain ⟨before, after, rfl, -, hafter⟩ := exists_append_of_lead hfirst hsplit
      have hprefix : encode (Text.ofChars (c :: part)) <+: encode (Text.ofChars after) := by
        refine ⟨back, ?_⟩
        rw [hafter, encode_cons, hlead]
        simp
      exact (begins_of_encode hprefix).isInfix.trans (List.suffix_append before after).isInfix
  · rintro ⟨before, after, rfl⟩
    rw [encode_append, encode_append]
    exact ⟨_, _, rfl⟩

theorem ofChars_infix_iff {part whole : List Char} :
    Text.ofChars part <:+: Text.ofChars whole ↔ part <:+: whole := by
  constructor
  · intro h
    obtain ⟨cs, hcs, hpart⟩ := List.infix_map_iff.mp h
    have hchars := congrArg Text.chars hpart
    change Text.chars (Text.ofChars part) = Text.chars (Text.ofChars cs) at hchars
    rw [Text.chars_ofChars, Text.chars_ofChars] at hchars
    rwa [hchars]
  · exact fun h => h.map _

/-! ### Texts that can be encoded -/

/-- Nothing but surrogates keeps a text from having a form in UTF-8. -/
theorem unencodable?_eq_none_iff {t : Text} :
    unencodable? t = none ↔ ∀ c ∈ t, c.isSurrogate = false := by
  have hnone : t.dropWhile (!·.isSurrogate) = [] ↔ ∀ c ∈ t, c.isSurrogate = false := by
    simp [List.dropWhile_eq_nil_iff]
  rw [← hnone, unencodable?]
  split <;> simp_all

theorem unencodable?_append_eq_none_iff {t u : Text} :
    unencodable? (t ++ u) = none ↔ unencodable? t = none ∧ unencodable? u = none := by
  simp only [unencodable?_eq_none_iff, List.forall_mem_append]

theorem unencodable?_ofChars (cs : List Char) : unencodable? (Text.ofChars cs) = none := by
  refine unencodable?_eq_none_iff.mpr fun c hc => ?_
  obtain ⟨c, -, rfl⟩ := List.mem_map.mp hc
  rfl

theorem encodeStrict_ofChars (cs : List Char) :
    encodeStrict (Text.ofChars cs) = .ok (encode (Text.ofChars cs)) := by
  rw [encodeStrict, unencodable?_ofChars]

theorem exists_encodeStrict_iff {t : Text} :
    (∃ octets, encodeStrict t = .ok octets) ↔ ∃ cs, t = Text.ofChars cs := by
  constructor
  · rintro ⟨octets, h⟩
    cases hcause : unencodable? t with
    | some cause =>
      rw [encodeStrict, hcause] at h
      cases h
    | none =>
      have hnone := unencodable?_eq_none_iff.mp hcause
      refine ⟨t.chars, ?_⟩
      rw [Text.ofChars, Text.chars, List.map_map]
      refine (List.map_id t).symm.trans (List.map_congr_left fun c hc => ?_)
      cases c with
      | char c => rfl
      | surrogate offset => cases hnone _ hc
  · rintro ⟨cs, rfl⟩
    exact ⟨_, encodeStrict_ofChars cs⟩

end Utf8

/-- The first surrogate, alone. -/
def loneSurrogate : Text := [.surrogate ⟨0, by decide⟩]

end BuildDispatch
