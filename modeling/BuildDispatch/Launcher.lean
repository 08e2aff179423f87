import BuildDispatch.Run

/-!
# The launcher

The program runs no command itself: the launcher that started it does so on request, and answers
with the outcome. A run is a function of its world, so it can be worked out again with every answer
and gets one attempt further each time; what it did up to there stays the same.

## Main definitions

* `Known`: the outcomes that have been answered.
* `Known.advance`: the events up to the first attempt without an answer, and that attempt.
* `Attempt.request`, `Answer.ofLine?`: the texts that are exchanged.
-/

namespace BuildDispatch

/-- Commands with their outcomes. -/
abbrev Known := List (List Text × Outcome)

namespace Known

def find? (k : Known) (command : List Text) : Option Outcome :=
  (List.find? (fun entry => entry.1 == command) k).map Prod.snd

/-- The world as far as it is known. What a command without an answer does is never looked at. -/
def extend (k : Known) (w : World) : World :=
  { w with outcome := fun command => (k.find? command).getD .missing }

def advance (k : Known) : Trace → Trace × Option Attempt
  | [] => ([], none)
  | e :: rest =>
    match e with
    | .attempted a =>
      if (k.find? a.command).isNone then ([], some a)
      else
        let (events, open?) := advance k rest
        (e :: events, open?)
    | e =>
      let (events, open?) := advance k rest
      (e :: events, open?)

/-- Nothing is passed over: what is left after the events is empty or begins with the attempt. -/
theorem advance_append (k : Known) (t : Trace) :
    ∃ rest, t = (k.advance t).1 ++ rest ∧
      rest.head? = (k.advance t).2.map Event.attempted := by
  induction t with
  | nil => exact ⟨[], rfl, rfl⟩
  | cons e rest ih =>
    obtain ⟨left, split, head⟩ := ih
    cases e with
    | attempted a =>
      by_cases h : (k.find? a.command).isNone
      · exact ⟨.attempted a :: rest, by simp [advance, h]⟩
      · exact ⟨left, by simp [advance, h, ← split], by simp [advance, h, head]⟩
    | _ => exact ⟨left, by simp [advance, ← split], by simp [advance, head]⟩

end Known

def Routing.word : Routing → String
  | .inherited => "inherited"
  | .discarded => "discarded"
  | .piped => "piped"

/-- A list in a request: its length and its members. -/
def counted (ts : List Text) : List Text := (toString ts.length : Text) :: ts

/-- The parts of a request: routing, directory, words and variables. -/
def Attempt.requestParts (a : Attempt) : List Text :=
  let settings : List Text := a.environment.toList.map fun v => v.1 ++ "=" ++ v.2
  Text.ofString a.routing.word :: a.directory.getD [] :: (counted a.command ++ counted settings)

/-- A request. A NUL ends every part. -/
def Attempt.request (a : Attempt) : Octets :=
  Utf8.encode (a.requestParts.flatMap fun part => part ++ "\x00")

/-- The first line of an answer. -/
inductive Answer
  /-- The command ran, and so many octets of its output follow. -/
  | exited (status : Int) (size : Nat)
  | failed (outcome : Outcome)
deriving Repr, DecidableEq

def Answer.ofLine? (line : String) : Option Answer :=
  match (String.ofList (line.toList.takeWhile (· != '\n'))).splitOn " " with
  | ["missing"] => some (.failed .missing)
  | ["denied"] => some (.failed .denied)
  | ["interrupted"] => some (.failed .interrupted)
  | "failed" :: words => some (.failed (.failed (" ".intercalate words : String)))
  | ["exited", status, size] => do
    let status ← status.toInt?
    let size ← size.toNat?
    some (.exited status size)
  | _ => none

end BuildDispatch
