import BuildDispatch.Text

/-!
# Commands and statuses
-/

namespace BuildDispatch

/-- A command as it is announced: its words with blanks between. -/
def commandText (words : List Text) : Text := Text.joinWith " " words

/-- The status that stands for a missing program. -/
def commandNotFound : Int := 127

/-- The status to exit with: for the end by a signal, which is negative, 128 more than its
number. -/
def exitStatus (status : Int) : Int := if status < 0 then 128 - status else status

end BuildDispatch
