import BuildDispatch.Text.Split
import BuildDispatch.Text.Utf8

/-!
# Filtering lines

A line filter drops the lines that hold its tag and counts them. Lines are text or octets; a line
of octets holds the tag where it holds the octets of the tag, so only a text with a form in UTF-8
makes a tag.
-/

namespace BuildDispatch

inductive Line
  | text (t : Text)
  | octets (b : Octets)
deriving Repr, DecidableEq

/-- Whether a tag stands in a line. -/
def Line.holds (line : Line) (tag : Text) : Bool :=
  match line with
  | .text t => Text.occursIn tag t
  | .octets b => Text.occursIn (Utf8.encode tag) b

structure LineFilter where
  tag : Text
  dropped : Nat := 0
deriving Repr, DecidableEq

namespace LineFilter

/-- The filter for a tag that has dropped nothing yet. -/
def forTag (tag : Text) : Except Utf8.Unencodable LineFilter := do
  let _ ← Utf8.encodeStrict tag
  .ok { tag }

/-- Whether a line is kept, and the filter afterwards. -/
def feed (f : LineFilter) (line : Line) : Bool × LineFilter :=
  if line.holds f.tag then (false, { f with dropped := f.dropped + 1 }) else (true, f)

/-- The verdict on each line, with the count of dropped lines after it. -/
def verdicts : LineFilter → List Line → List (Bool × Nat)
  | _, [] => []
  | f, line :: rest => ((f.feed line).1, (f.feed line).2.dropped) :: verdicts (f.feed line).2 rest

end LineFilter
end BuildDispatch
