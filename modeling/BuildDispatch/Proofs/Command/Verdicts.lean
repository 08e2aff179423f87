import BuildDispatch.Command.LineFilter
import BuildDispatch.Proofs.Text.Occurrence
import BuildDispatch.Proofs.Text.Split

/-!
# Lines in either form

A filter takes lines as text and as octets, even the one and the other in turn. What it makes of a
line does not depend on its form: the octets of a tag stand in the octets of a line exactly where
the tag stands in the line.

## Main statements

* `LineForm.holds_line`: a line holds a tag in both forms or in none.
* `LineFilter.getElem?_verdicts`, `LineFilter.kept_verdicts`: what a filter answers, line by line,
  and what it keeps.
* `LineFilter.verdicts_formless`: any mixture of forms gets the verdicts that the text gets.
-/

namespace BuildDispatch

/-- The forms in which a filter takes a line. -/
inductive LineForm
  | text
  | octets

namespace LineForm

/-- A line of characters in a form. -/
def line (form : LineForm) (cs : List Char) : Line :=
  match form with
  | text => .text (Text.ofChars cs)
  | octets => .octets (Utf8.encode (Text.ofChars cs))

theorem holds_line (form : LineForm) (cs tag : List Char) :
    (form.line cs).holds (Text.ofChars tag) = decide (tag <:+: cs) := by
  rw [Bool.eq_iff_iff, decide_eq_true_iff]
  cases form with
  | text => exact Text.occursIn_iff.trans Utf8.ofChars_infix_iff
  | octets => exact Text.occursIn_iff.trans Utf8.encode_infix_iff

end LineForm

namespace LineFilter

variable (f : LineFilter)

theorem tag_feed (line : Line) : (f.feed line).2.tag = f.tag := by
  unfold feed
  split <;> rfl

theorem fst_feed (line : Line) : (f.feed line).1 = !line.holds f.tag := by
  unfold feed
  split <;> simp_all

theorem dropped_feed (line : Line) :
    (f.feed line).2.dropped = f.dropped + if line.holds f.tag then 1 else 0 := by
  unfold feed
  split <;> rfl

/-- A verdict depends on whether the tag is in the line. -/
theorem verdicts_congr {α : Type} {form form' : α → Line}
    (h : ∀ a, (form a).holds f.tag = (form' a).holds f.tag) (items : List α) :
    f.verdicts (items.map form) = f.verdicts (items.map form') := by
  induction items generalizing f with
  | nil => rfl
  | cons a rest ih =>
    have hfeed : f.feed (form a) = f.feed (form' a) := by
      unfold feed
      rw [h a]
    have htag := f.tag_feed (form' a)
    rw [List.map_cons, List.map_cons, verdicts, verdicts, hfeed, ih _ (by rwa [htag])]

/-- The count that goes with a verdict is that of the lines with the tag so far. -/
theorem getElem?_verdicts (lines : List Line) (k : Nat) :
    (f.verdicts lines)[k]? = lines[k]?.map fun line =>
      (!line.holds f.tag, f.dropped + (lines.take (k + 1)).countP fun l => l.holds f.tag) := by
  induction lines generalizing f k with
  | nil => rfl
  | cons line rest ih =>
    rw [verdicts, fst_feed]
    cases k with
    | zero => simp [dropped_feed, List.countP_cons]
    | succ k =>
      rw [List.getElem?_cons_succ, List.getElem?_cons_succ, ih, tag_feed, dropped_feed,
        List.take_succ_cons, List.countP_cons]
      congr 1
      funext l
      congr 1
      omega

/-- The lines that are kept are those without the tag, in order. -/
theorem kept_verdicts {α : Type} (form : α → Line) (items : List α) :
    ((items.zip (f.verdicts (items.map form))).filter fun item => item.2.1).map Prod.fst =
      items.filter fun item => !(form item).holds f.tag := by
  induction items generalizing f with
  | nil => rfl
  | cons item rest ih =>
    have hrest := ih (f.feed (form item)).2
    rw [tag_feed] at hrest
    rw [List.map_cons, verdicts, List.zip_cons_cons, List.filter_cons, List.filter_cons,
      fst_feed]
    split
    · rw [List.map_cons, hrest]
    · exact hrest

/-- Only texts without surrogates make a tag, and all of them do. -/
theorem forTag_eq_ok_iff {tag : Text} {f : LineFilter} :
    forTag tag = .ok f ↔ (∃ cs, tag = Text.ofChars cs) ∧ f = { tag } := by
  rw [← Utf8.exists_encodeStrict_iff]
  unfold forTag
  cases Utf8.encodeStrict tag with
  | error cause => exact ⟨nofun, fun h => nomatch h.1⟩
  | ok octets => exact ⟨fun h => ⟨⟨octets, rfl⟩, (Except.ok.inj h).symm⟩, fun h => h.2 ▸ rfl⟩

/-- Lines of characters may be fed in any mixture of forms: the verdicts and the counts are those of
the text alone and of the octets alone. They tell which lines hold the tag. -/
theorem verdicts_formless (tag : List Char) (lines : List (LineForm × List Char)) :
    let chars := lines.map Prod.snd
    let f : LineFilter := { tag := Text.ofChars tag }
    let verdicts := f.verdicts (lines.map fun l => l.1.line l.2)
    (∀ t g, forTag t = .ok g ↔ (∃ cs, t = Text.ofChars cs) ∧ g = { tag := t }) ∧
      (∀ cs, Utf8.encode (Text.ofChars tag) <:+: Utf8.encode (Text.ofChars cs) ↔ tag <:+: cs) ∧
      (∀ form : LineForm, f.verdicts (chars.map form.line) = verdicts) ∧
      (∀ k : Nat, verdicts[k]? = chars[k]?.map fun cs =>
        (decide (¬ tag <:+: cs), (chars.take (k + 1)).countP fun cs => tag <:+: cs)) ∧
      ((chars.zip verdicts).filter fun l => l.2.1).map Prod.fst =
        chars.filter fun cs => ¬ tag <:+: cs := by
  intro chars f verdicts
  have same : ∀ form : LineForm, f.verdicts (chars.map form.line) = verdicts := by
    intro form
    rw [List.map_map]
    exact f.verdicts_congr (fun l => by simp [f, LineForm.holds_line]) lines
  refine ⟨fun t g => forTag_eq_ok_iff, fun cs => Utf8.encode_infix_iff, same, fun k => ?_, ?_⟩
  · rw [← same .text, getElem?_verdicts, List.getElem?_map, Option.map_map, ← List.map_take,
      List.countP_map, Nat.zero_add]
    simp only [Function.comp_def, f, LineForm.holds_line, decide_not]
  · rw [← same .text, kept_verdicts]
    simp only [f, LineForm.holds_line, decide_not]

end LineFilter
end BuildDispatch
