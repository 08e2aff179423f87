/-!
# Ranges of code points

A class of characters as the ranges that its code points fill.
-/

namespace BuildDispatch.Text

/-- Whether a code point lies in one of some ascending ranges, the ends of which belong to them. -/
def inRanges (code : Nat) : List (Nat × Nat) → Bool
  | [] => false
  | range :: rest => if code < range.1 then false else code ≤ range.2 || inRanges code rest

end BuildDispatch.Text
