import Mathlib.Algebra.Group.Nat.Defs
import BuildDispatch.Text.Columns

/-!
# Numerals

A number is written with digits and at most a sign, and padding it on the left does not blur it.

## Main statements

* `Text.notMem_int`: what is no digit is not among the digits of a number.
* `Text.padLeftWith_injective`: zeros or blanks in front of a number do not blur it.
-/

namespace BuildDispatch.Text

/-! ### Strings as texts -/

theorem ofString_injective {s t : String} (h : ofString s = ofString t) : s = t := by
  have hchars := congrArg chars h
  rw [ofString, ofString, chars_ofChars, chars_ofChars] at hchars
  exact String.toList_inj.mp hchars

theorem mem_ofString {c : Char} {s : String} : CodePoint.char c ∈ ofString s ↔ c ∈ s.toList := by
  simp [ofString, ofChars]

theorem length_ofString (s : String) : (ofString s).length = s.toList.length :=
  List.length_map ..

/-! ### Digits -/

theorem notMem_toDigits {c : Char} (hc : c.isDigit = false) (n : Nat) : c ∉ Nat.toDigits 10 n := by
  intro hmem
  have hdigit := Nat.isDigit_of_mem_toDigits (by decide) (by decide) hmem
  simp [hc] at hdigit

theorem notMem_int {c : Char} (hc : c.isDigit = false) (hminus : c ≠ '-') (n : Int) :
    CodePoint.char c ∉ (toString n : Text) := by
  rw [mem_ofString, Int.toString_eq_repr, Int.repr_eq_if]
  split <;> simp [notMem_toDigits hc, hminus]

/-! ### Padding -/

section Padded

variable {fill : Char} {width n m : Nat}

/-- What stands in front of the digits of a number does not count if it counts as zero or less. -/
theorem ofDigitChars_padLeftWith (hfill : fill.toNat ≤ '0'.toNat) (width n : Nat) :
    Nat.ofDigitChars 10 (padLeftWith fill width (toString n)).toList 0 = n := by
  have hzero : ∀ k, (List.replicate k fill).foldl
      (fun sofar c => 10 * sofar + (c.toNat - '0'.toNat)) 0 = 0 := by
    intro k
    induction k with
    | zero => rfl
    | succ k ih =>
      rw [List.replicate_succ, List.foldl_cons, Nat.mul_zero, Nat.zero_add,
        Nat.sub_eq_zero_of_le hfill, ih]
  have hdigits : (toString n).toList = Nat.toDigits 10 n := by
    rw [Nat.toString_eq_ofList_toDigits, String.toList_ofList]
  rw [padLeftWith, String.toList_append, String.toList_ofList, hdigits, Nat.ofDigitChars,
    List.foldl_append, hzero]
  exact Nat.ofDigitChars_ten_toDigits

theorem padLeftWith_injective (hfill : fill.toNat ≤ '0'.toNat)
    (h : padLeftWith fill width (toString n) = padLeftWith fill width (toString m)) : n = m := by
  rw [← ofDigitChars_padLeftWith hfill width n, h, ofDigitChars_padLeftWith hfill]

theorem notMem_padLeftWith {c : Char} (hc : c.isDigit = false) (hne : c ≠ fill) (width n : Nat) :
    c ∉ (padLeftWith fill width (toString n)).toList := by
  simp [padLeftWith, notMem_toDigits hc, hne]

theorem length_padLeftWith (hwidth : 0 < width) (hn : n < 10 ^ width) :
    (padLeftWith fill width (toString n)).toList.length = width := by
  have hdigits : (toString n).length ≤ width := by
    rw [Nat.toString_eq_ofList_toDigits, String.length_ofList]
    exact (Nat.length_toDigits_le_iff (by decide) hwidth).mpr hn
  rw [padLeftWith, String.toList_append, String.toList_ofList, List.length_append,
    List.length_replicate, String.length_toList]
  omega

end Padded

end BuildDispatch.Text
