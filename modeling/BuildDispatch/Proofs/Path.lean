import BuildDispatch.World
import BuildDispatch.Proofs.Text.Split

/-!
# Normal forms of paths

A text and its normal form have the same root and the same named parts. A slash between two texts
parts what stands before it from what stands behind it, and so texts may be joined before or after
they are brought to normal form. The root needs more care: it is told from all leading slashes, and
these may go on where two texts meet. They do not where the second text does not begin with a slash,
or where the first one ends with something else.

## Main statements

* `Path.ofText_joinText`: joining texts is joining their normal forms.
* `Path.ofText_text_eq_self_iff`: the paths that are read back from their text are those in normal
  form, and these are all that `ofText` gives.
* `Disk.fileOf_fileOf`: a file may be named by the path that a name of it leads to.
-/

namespace BuildDispatch
namespace Path

open Text

variable {p q : Path} {t name : Text}

/-- Every part names something, and none holds a slash. -/
def IsNormal (p : Path) : Prop := ∀ part ∈ p.parts, isNamed part = true ∧ slash ∉ part

theorem isNormal_ofText (t : Text) : (ofText t).IsNormal := by
  intro part hpart
  obtain ⟨hmem, hnamed⟩ := List.mem_filter.mp hpart
  exact ⟨hnamed, notMem_of_mem_splitOn hmem⟩

/-- A path is told by its root and its parts. -/
theorem ofText_eq (hroot : rootOf t = p.root) (hparts : (ofText t).parts = p.parts) :
    ofText t = p := by
  obtain ⟨root, parts⟩ := p
  subst hroot hparts
  rfl

/-! ### Roots -/

theorem takeWhile_slash_eq_nil_iff : t.takeWhile (· == slash) = [] ↔ t.head? ≠ some slash := by
  cases t with
  | nil => simp
  | cons c t => by_cases h : c = slash <;> simp [h]

theorem rootOf_eq_none_iff : rootOf t = .none ↔ t.head? ≠ some slash := by
  rw [← takeWhile_slash_eq_nil_iff, rootOf]
  cases t.takeWhile (· == slash) with
  | nil => simp
  | cons c rest =>
    rw [List.length_cons]
    split <;> grind

/-- What does not begin with a slash adds nothing to the slashes before it. -/
theorem rootOf_append (front : Text) (h : t.head? ≠ some slash) :
    rootOf (front ++ t) = rootOf front := by
  have hnone : t.takeWhile (· == slash) = [] := takeWhile_slash_eq_nil_iff.mpr h
  have hslashes : (front ++ t).takeWhile (· == slash) = front.takeWhile (· == slash) := by
    rw [List.takeWhile_append, hnone, List.append_nil]
    split
    · next hlength => exact ((List.takeWhile_prefix _).eq_of_length hlength).symm
    · rfl
  rw [rootOf, hslashes, rootOf]

/-- Behind anything but a slash no slash counts. -/
theorem rootOf_append_cons {c : CodePoint} (h : c ≠ slash) (front back : Text) :
    rootOf (front ++ c :: back) = rootOf front :=
  rootOf_append front (by simpa using h)

theorem rootOf_text (r : Root) : rootOf r.text = r := by
  cases r <;> rfl

/-! ### Parts -/

theorem parts_append_slash (front back : Text) :
    (ofText (front ++ slash :: back)).parts = (ofText front).parts ++ (ofText back).parts := by
  simp only [ofText, splitOn_eq, List.splitOn_append_cons_self, List.filter_append]

theorem parts_text_append (r : Root) (t : Text) :
    (ofText (r.text ++ t)).parts = (ofText t).parts := by
  cases r with
  | none => rfl
  | slash => exact parts_append_slash [] t
  | slashes => exact parts_append_slash [slash] t

/-! ### Joining -/

theorem join_of_relative (p : Path) (h : rootOf name = .none) :
    p.join (ofText name) = ⟨p.root, p.parts ++ (ofText name).parts⟩ :=
  if_pos h

theorem join_of_rooted (p : Path) (h : rootOf name ≠ .none) :
    p.join (ofText name) = ofText name :=
  if_neg h

/-- Two texts are joined to one with the normal form that their normal forms are joined to. -/
theorem ofText_joinText (directory name : Text) :
    ofText (joinText directory name) = (ofText directory).join (ofText name) := by
  by_cases hname : name.head? = some slash
  · -- A name with a root of its own stands alone on both sides.
    have hroot : rootOf name ≠ .none := rootOf_eq_none_iff.not_left.mpr hname
    rw [joinText, if_pos hname, join_of_rooted _ hroot]
  · have hroot : rootOf name = .none := rootOf_eq_none_iff.mpr hname
    rw [joinText, if_neg hname, join_of_relative _ hroot]
    rcases List.eq_nil_or_concat' directory with rfl | ⟨front, c, rfl⟩
    · rw [if_pos (.inl rfl)]
      exact ofText_eq hroot rfl
    · by_cases hc : c = slash
      · -- The slash at the end of the directory is the one between the two.
        subst hc
        rw [if_pos (.inr (List.getLast?_concat ..))]
        refine ofText_eq (rootOf_append _ hname) ?_
        rw [← List.append_cons, parts_append_slash]
        have hfront : (ofText (front ++ [slash])).parts = (ofText front).parts ++ [] :=
          parts_append_slash front []
        rw [hfront, List.append_nil]
      · rw [if_neg (by simpa using hc)]
        refine ofText_eq ?_ (parts_append_slash _ name)
        calc rootOf (front ++ [c] ++ slash :: name)
          _ = rootOf (front ++ c :: slash :: name) := by rw [← List.append_cons]
          _ = rootOf front := rootOf_append_cons hc front _
          _ = rootOf (front ++ [c]) := (rootOf_append_cons hc front []).symm

/-! ### Reading back -/

theorem IsNormal.parts_joinWith (h : p.IsNormal) :
    (ofText (joinWith "/" p.parts)).parts = p.parts := by
  have hslash : ∀ part ∈ p.parts, slash ∉ part := fun part hpart => (h part hpart).2
  by_cases hne : p.parts = []
  · rw [hne]
    rfl
  · calc (ofText (joinWith "/" p.parts)).parts
      _ = (splitOn slash ([slash].intercalate p.parts)).filter isNamed := rfl
      _ = p.parts.filter isNamed := by rw [splitOn_eq, List.splitOn_intercalate slash hslash hne]
      _ = p.parts := List.filter_eq_self.mpr fun part hpart => (h part hpart).1

theorem IsNormal.head?_joinWith (h : p.IsNormal) :
    (joinWith "/" p.parts).head? ≠ some slash := by
  cases hparts : p.parts with
  | nil => simp [joinWith]
  | cons part rest =>
    obtain ⟨hnamed, hslash⟩ := h part (by simp [hparts])
    cases part with
    | nil => simp [isNamed] at hnamed
    | cons c part =>
      have hc : c ≠ slash := fun hc => hslash (by simp [hc])
      cases rest <;> simp [joinWith, hc]

theorem IsNormal.ofText_text (h : p.IsNormal) : ofText p.text = p := by
  unfold text
  split
  · next hdot =>
    exact ofText_eq hdot.1.symm hdot.2.symm
  · refine ofText_eq ?_ ?_
    · rw [rootOf_append _ h.head?_joinWith, rootOf_text]
    · rw [parts_text_append, h.parts_joinWith]

theorem ofText_text_eq_self_iff : ofText p.text = p ↔ p.IsNormal := by
  constructor
  · intro h
    rw [← h]
    exact isNormal_ofText p.text
  · exact IsNormal.ofText_text

/-! ### Absolute paths -/

/-- One part more, with what it does to the parts before it. -/
theorem collapse_concat (parts : List Text) (part : Text) :
    collapse (parts ++ [part]) =
      if part = ".." then (collapse parts).dropLast else collapse parts ++ [part] := by
  rw [collapse, List.foldl_append]
  rfl

/-- What is left are parts that were there, without double dots. -/
theorem mem_collapse {parts : List Text} {part : Text} (h : part ∈ collapse parts) :
    part ∈ parts ∧ part ≠ ".." := by
  induction parts using List.reverseRecOn with
  | nil => cases h
  | append_singleton parts last ih =>
    rw [collapse_concat] at h
    split at h
    · obtain ⟨hmem, hne⟩ := ih (List.mem_of_mem_dropLast h)
      exact ⟨List.mem_append_left _ hmem, hne⟩
    · next hlast =>
      rcases List.mem_append.mp h with h | h
      · obtain ⟨hmem, hne⟩ := ih h
        exact ⟨List.mem_append_left _ hmem, hne⟩
      · obtain rfl := List.mem_singleton.mp h
        exact ⟨List.mem_append_right _ h, hlast⟩

theorem collapse_of_notMem {parts : List Text} (h : (".." : Text) ∉ parts) :
    collapse parts = parts := by
  induction parts using List.reverseRecOn with
  | nil => rfl
  | append_singleton parts last ih =>
    rw [List.mem_append, not_or, List.mem_singleton] at h
    rw [collapse_concat, if_neg (Ne.symm h.2), ih h.1]

/-- An absolute path leads to itself. -/
theorem absolute_absolute {current : Path} (h : current.root ≠ .none) (p : Path) :
    current.absolute (current.absolute p) = current.absolute p := by
  have hroot : (current.join p).root ≠ .none := by
    unfold join
    split <;> assumption
  have hjoin : current.join (current.absolute p) = current.absolute p := if_neg hroot
  have hparts : (".." : Text) ∉ (current.absolute p).parts := fun hmem => (mem_collapse hmem).2 rfl
  rw [absolute, hjoin, collapse_of_notMem hparts]

theorem IsNormal.absolute {current : Path} (hcurrent : current.IsNormal) (hp : p.IsNormal) :
    (current.absolute p).IsNormal := by
  have hjoin : (current.join p).IsNormal := by
    unfold join
    split
    · exact fun part hpart => (List.mem_append.mp hpart).elim (hcurrent part) (hp part)
    · exact hp
  exact fun part hpart => hjoin part (mem_collapse hpart).1

end Path

/-- The file that a name leads to has that file for a name, too. -/
theorem Disk.fileOf_fileOf {current : Path} (hcurrent : current.IsNormal)
    (hroot : current.root ≠ .none) (name : Text) :
    (byPath current).fileOf ((byPath current).fileOf name) = (byPath current).fileOf name := by
  have hnormal := hcurrent.absolute (Path.isNormal_ofText name)
  simp only [Disk.byPath]
  rw [hnormal.ofText_text, Path.absolute_absolute hroot]

example : (["x.log", "./x.log", "a/../x.log", "/work//x.log"] : List Text).map
    (Disk.byPath (.ofText "/work")).fileOf = List.replicate 4 "/work/x.log" := by
  decide +kernel

end BuildDispatch
