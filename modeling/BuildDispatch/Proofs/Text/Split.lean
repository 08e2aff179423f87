import Mathlib.Data.List.Infix
import BuildDispatch.Text.Split

/-!
# Pieces of a list

Cutting a list behind every stop loses nothing, and what is left over after some of the pieces have
been thrown away is cut into the others again: only the last piece may lack a stop, so joining
pieces never makes a new one. For the same reason no list without a stop in it can occur across two
of them.

## Main statements

* `Text.IsCut`: what pieces look like, said without cutting.
* `Text.splitOn_eq`: splitting at separators is the library's.
* `Text.isCut_cutAfter`, `Text.cutAfter_flatten`: cutting gives such pieces, and takes each list of
  such pieces apart again.
* `Text.exists_mem_of_infix_flatten`: what occurs in the whole occurs in a piece.
-/

namespace BuildDispatch.Text

variable {α : Type}

/-! ### Occurrences -/

theorem beginsWith_iff [DecidableEq α] {part whole : List α} :
    beginsWith part whole = true ↔ part <+: whole := by
  induction part generalizing whole with
  | nil => simp [beginsWith]
  | cons a part ih =>
    cases whole with
    | nil => simp [beginsWith]
    | cons b whole => simp [beginsWith, List.cons_prefix_cons, ih]

theorem occursIn_iff [DecidableEq α] {part whole : List α} :
    occursIn part whole = true ↔ part <:+: whole := by
  induction whole with
  | nil => simp [occursIn]
  | cons a rest ih => rw [occursIn, Bool.or_eq_true, beginsWith_iff, ih, List.infix_cons_iff]

/-- Where a stop stands, what does not hold it lies on one side. -/
theorem infix_append_cons {part front back : List α} {stop : α} (hpart : stop ∉ part)
    (h : part <:+: front ++ stop :: back) : part <:+: front ∨ part <:+: back := by
  obtain ⟨before, after, h⟩ := h
  rw [List.append_assoc, List.append_eq_append_iff] at h
  rcases h with ⟨mid, hfront, h⟩ | ⟨mid, -, h⟩
  · -- The part begins in front of the stop, so it ends there, too.
    rcases List.append_eq_append_iff.mp h with ⟨tail, hmid, -⟩ | ⟨tail, hpart', htail⟩
    · exact .inl ⟨before, tail, by rw [hfront, hmid, List.append_assoc]⟩
    · cases tail with
      | nil => exact .inl ⟨before, [], by simp [hfront, hpart']⟩
      | cons c tail =>
        obtain ⟨rfl, -⟩ := List.cons_eq_cons.mp htail
        exact absurd (hpart' ▸ by simp) hpart
  · cases mid with
    | nil =>
      cases part with
      | nil => exact .inl (List.nil_infix)
      | cons c part =>
        obtain ⟨rfl, -⟩ := List.cons_eq_cons.mp h
        exact absurd List.mem_cons_self hpart
    | cons c mid =>
      obtain ⟨-, rfl⟩ := List.cons_eq_cons.mp h
      exact .inr ⟨mid, after, by simp⟩

/-! ### A stop between two parts -/

section Stop

variable {stop : α} {a b c d : List α}

/-- What stands in front of the first stop, and what behind it. -/
theorem append_stop_inj (ha : stop ∉ a) (hc : stop ∉ c) (h : a ++ stop :: b = c ++ stop :: d) :
    a = c ∧ b = d := by
  induction a generalizing c with
  | nil =>
    cases c with
    | nil => exact ⟨rfl, (List.cons_eq_cons.mp h).2⟩
    | cons y c =>
      obtain ⟨rfl, -⟩ := List.cons_eq_cons.mp h
      exact absurd List.mem_cons_self hc
  | cons x a ih =>
    cases c with
    | nil =>
      obtain ⟨rfl, -⟩ := List.cons_eq_cons.mp h
      exact absurd List.mem_cons_self ha
    | cons y c =>
      rw [List.mem_cons, not_or] at ha hc
      obtain ⟨rfl, hrest⟩ := List.cons_eq_cons.mp h
      obtain ⟨rfl, hback⟩ := ih ha.2 hc.2 hrest
      exact ⟨rfl, hback⟩

/-- What stands in front of the last stop, and what behind it. -/
theorem append_lastStop_inj (hb : stop ∉ b) (hd : stop ∉ d)
    (h : a ++ stop :: b = c ++ stop :: d) : a = c ∧ b = d := by
  have hreverse : b.reverse ++ stop :: a.reverse = d.reverse ++ stop :: c.reverse := by
    simpa using congrArg List.reverse h
  obtain ⟨hback, hfront⟩ :=
    append_stop_inj (List.mem_reverse.not.mpr hb) (List.mem_reverse.not.mpr hd) hreverse
  exact ⟨List.reverse_inj.mp hfront, List.reverse_inj.mp hback⟩

end Stop

/-! ### Separators -/

section SplitOn

variable [DecidableEq α] {separator : α}

theorem splitOn_eq (separator : α) (l : List α) : splitOn separator l = l.splitOn separator := by
  induction l with
  | nil => rfl
  | cons a rest ih =>
    rw [splitOn, List.splitOn_cons_eq_if_modifyHead, ih]
    have hne : rest.splitOn separator ≠ [] := List.splitOn_ne_nil separator rest
    cases hparts : rest.splitOn separator with
    | nil => exact absurd hparts hne
    | cons part parts => simp

theorem notMem_of_mem_splitOn {l part : List α} (h : part ∈ splitOn separator l) :
    separator ∉ part := by
  induction l generalizing part with
  | nil =>
    obtain rfl : part = [] := List.mem_singleton.mp h
    exact List.not_mem_nil
  | cons a rest ih =>
    rw [splitOn] at h
    split at h <;> grind

end SplitOn

/-! ### Pieces -/

/-- Every piece ends with the one stop that it holds. Only the last piece may hold none, and then it
is not empty. -/
inductive IsCut (stop : α) : List (List α) → Prop
  | nil : IsCut stop []
  | last {piece : List α} (hne : piece ≠ []) (hstop : stop ∉ piece) : IsCut stop [piece]
  | cons {body : List α} {pieces : List (List α)} (hstop : stop ∉ body)
    (hrest : IsCut stop pieces) : IsCut stop ((body ++ [stop]) :: pieces)

section Cut

variable [DecidableEq α] {stop : α}

theorem flatten_cutAfter (stop : α) (l : List α) : (cutAfter stop l).flatten = l := by
  induction l with
  | nil => rfl
  | cons a rest ih =>
    rw [cutAfter]
    split
    · simp [ih]
    · split
      · next h => simpa [h] using ih
      · next h => simpa [h] using ih

theorem isCut_cutAfter (stop : α) (l : List α) : IsCut stop (cutAfter stop l) := by
  induction l with
  | nil => exact .nil
  | cons a rest ih =>
    rw [cutAfter]
    split
    · next h =>
      subst h
      have hcut : IsCut a (([] ++ [a]) :: cutAfter a rest) := .cons List.not_mem_nil ih
      exact hcut
    · next ha =>
      split
      · exact .last (List.cons_ne_nil _ _) (by simpa using Ne.symm ha)
      · next piece pieces h =>
        rw [h] at ih
        cases ih with
        | last hne hstop => exact .last (List.cons_ne_nil _ _) (by simp [Ne.symm ha, hstop])
        | @cons body _ hstop hrest =>
          have hcut : IsCut stop ((a :: body ++ [stop]) :: pieces) :=
            .cons (by simp [Ne.symm ha, hstop]) hrest
          exact hcut

theorem cutAfter_of_notMem {piece : List α} (hne : piece ≠ []) (hstop : stop ∉ piece) :
    cutAfter stop piece = [piece] := by
  induction piece with
  | nil => exact absurd rfl hne
  | cons a rest ih =>
    rw [List.mem_cons, not_or] at hstop
    rw [cutAfter, if_neg (Ne.symm hstop.1)]
    cases rest with
    | nil => rfl
    | cons b rest => rw [ih (List.cons_ne_nil _ _) hstop.2]

theorem cutAfter_append_stop {body : List α} (hstop : stop ∉ body) (rest : List α) :
    cutAfter stop (body ++ stop :: rest) = (body ++ [stop]) :: cutAfter stop rest := by
  induction body with
  | nil => simp [cutAfter]
  | cons a body ih =>
    rw [List.mem_cons, not_or] at hstop
    rw [List.cons_append, cutAfter, if_neg (Ne.symm hstop.1), ih hstop.2]
    rfl

/-- Pieces that are joined come apart where they were joined. -/
theorem cutAfter_flatten {pieces : List (List α)} (h : IsCut stop pieces) :
    cutAfter stop pieces.flatten = pieces := by
  induction h with
  | nil => rfl
  | last hne hstop => simpa using cutAfter_of_notMem hne hstop
  | @cons body pieces hstop _ ih =>
    rw [List.flatten_cons, List.append_assoc, List.singleton_append, cutAfter_append_stop hstop, ih]

end Cut

variable {stop : α} {pieces : List (List α)}

/-- Throwing pieces away leaves pieces. -/
theorem IsCut.filter (h : IsCut stop pieces) (p : List α → Bool) :
    IsCut stop (pieces.filter p) := by
  induction h with
  | nil => exact .nil
  | @last piece hne hstop =>
    rw [List.filter_cons]
    split
    · exact .last hne hstop
    · exact .nil
  | @cons body pieces hstop _ ih =>
    rw [List.filter_cons]
    split
    · exact .cons hstop ih
    · exact ih

theorem exists_mem_of_infix_flatten {part : List α} (h : IsCut stop pieces) (hne : part ≠ [])
    (hpart : stop ∉ part) (hoccurs : part <:+: pieces.flatten) :
    ∃ piece ∈ pieces, part <:+: piece := by
  induction h with
  | nil => exact absurd (List.infix_nil.mp hoccurs) hne
  | @last piece _ _ => exact ⟨piece, List.mem_singleton_self _, by simpa using hoccurs⟩
  | @cons body pieces _ _ ih =>
    rw [List.flatten_cons, List.append_assoc, List.singleton_append] at hoccurs
    rcases infix_append_cons hpart hoccurs with hbody | hrest
    · exact ⟨_, List.mem_cons_self, hbody.trans (List.prefix_append _ _).isInfix⟩
    · obtain ⟨piece, hmem, hpiece⟩ := ih hrest
      exact ⟨piece, List.mem_cons_of_mem _ hmem, hpiece⟩

end BuildDispatch.Text
