/-!
# Splitting and searching lists
-/

namespace BuildDispatch.Text

/-- The parts between the separators; there is one more of them than of separators. -/
def splitOn {α : Type} [DecidableEq α] (separator : α) : List α → List (List α)
  | [] => [[]]
  | a :: rest =>
    if a = separator then [] :: splitOn separator rest
    else
      match splitOn separator rest with
      | [] => [[a]]
      | part :: parts => (a :: part) :: parts

/-- Whether a list begins with another. -/
def beginsWith {α : Type} [DecidableEq α] : List α → List α → Bool
  | [], _ => true
  | _ :: _, [] => false
  | a :: part, b :: whole => a = b && beginsWith part whole

/-- Whether a list occurs in another without gaps. -/
def occursIn {α : Type} [DecidableEq α] (part : List α) : List α → Bool
  | [] => part.isEmpty
  | a :: rest => beginsWith part (a :: rest) || occursIn part rest

/-- Cut a list behind every `stop`. The last piece may lack one; no piece is empty. -/
def cutAfter {α : Type} [DecidableEq α] (stop : α) : List α → List (List α)
  | [] => []
  | a :: rest =>
    if a = stop then [a] :: cutAfter stop rest
    else
      match cutAfter stop rest with
      | [] => [[a]]
      | piece :: pieces => (a :: piece) :: pieces

end BuildDispatch.Text
