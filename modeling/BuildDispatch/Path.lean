import BuildDispatch.Text
import BuildDispatch.Text.Split

/-!
# Paths

A path in normal form: a root and the parts between slashes, without empty parts and without
single dots. Double dots stay, since what they mean depends on the directories that exist. Two
leading slashes are a root of their own, three or more count as one.

`joinText` joins texts as they are, without bringing them to normal form.
-/

namespace BuildDispatch

inductive Path.Root
  | none
  | slash
  | slashes
deriving Repr, DecidableEq

structure Path where
  root : Path.Root
  parts : List Text
deriving Repr, DecidableEq

namespace Path

open Text

def slash : CodePoint := '/'

def Root.text : Root → Text
  | none => ""
  | slash => "/"
  | slashes => "//"

def rootOf (t : Text) : Root :=
  match (t.takeWhile (· == slash)).length with
  | 0 => .none
  | 2 => .slashes
  | _ => .slash

/-- A part that names something. -/
def isNamed (part : Text) : Bool := !part.isEmpty && part != "."

/-- The normal form of a text. -/
def ofText (t : Text) : Path := ⟨rootOf t, (splitOn slash t).filter isNamed⟩

/-- The text of a normal form. The path without root and parts is a dot. -/
def text (p : Path) : Text :=
  if p.root = .none ∧ p.parts = [] then "." else p.root.text ++ joinWith "/" p.parts

/-- The path `q` as seen from `p`; a path with a root replaces what stands before it. -/
def join (p q : Path) : Path :=
  if q.root = .none then ⟨p.root, p.parts ++ q.parts⟩ else q

/-- The path without its last part. -/
def parent (p : Path) : Path := { p with parts := p.parts.dropLast }

/-- Parts without double dots: each has taken the part before it away, if there is one. -/
def collapse (parts : List Text) : List Text :=
  parts.foldl
    (fun front (part : Text) => if part = ".." then front.dropLast else front ++ [part]) []

/-- The path `p` as seen from `current`, told by its text alone: double dots are taken out as if
every directory were there. -/
def absolute (current p : Path) : Path :=
  let joined := current.join p
  ⟨joined.root, collapse joined.parts⟩

/-- The text of a name in a directory, with a slash between where there is none. -/
def joinText (directory name : Text) : Text :=
  if name.head? = some slash then name
  else if directory = [] ∨ directory.getLast? = some slash then directory ++ name
  else directory ++ slash :: name

end Path
end BuildDispatch
