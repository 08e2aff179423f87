import BuildDispatch.Failure
import BuildDispatch.Value.Text

/-!
# Fields of a configuration

Reading parts of a value that has to have a certain shape. `place` is how messages name the value.
A configuration is turned down for what is wrong with its content, or because some value that is
needed as text has none.
-/

namespace BuildDispatch.Config

open Text

/-- Why a configuration is turned down. -/
inductive Rejection
  | fault (f : ConfigFault)
  | unwritable (cause : Unwritable)
deriving Repr, DecidableEq

def Rejection.failure : Rejection → Failure
  | fault f => .configuration f
  | unwritable cause => .unwritable cause

def Rejection.message (r : Rejection) : Text := r.failure.message

abbrev Checked (α : Type) := Except Rejection α

/-- Turn a configuration down for a fault. -/
def reject {α : Type} (fault : ConfigFault) : Checked α := .error (.fault fault)

/-- A value as text. -/
def textOf (v : Value) : Checked Text := v.text.mapError .unwritable

/-- The part of a mapping under a key, if it has it. -/
def optional (v : Value) (key : Text) : Option Value :=
  match v.view with
  | .mapping entries => Value.lookup key entries
  | _ => none

/-- The part of a mapping under a key that it must have. -/
def require (v : Value) (key place : Text) : Checked Value :=
  match optional v key with
  | some part => .ok part
  | none => reject (.missingKey key place)

/-- The texts of a list; null is the empty list. -/
def texts (v : Value) (place : Text) : Checked (List Text) :=
  match v.view with
  | .null => .ok []
  | .list items => items.mapM textOf
  | _ => reject (.notAList place v.kindName)

def requireText (v : Value) (key place : Text) : Checked Text := do
  textOf (← require v key place)

def requireTexts (v : Value) (key place listPlace : Text) : Checked (List Text) := do
  texts (← require v key place) listPlace

/-- The text under a key, or what stands for it where there is none. -/
def optionalText (v : Value) (key default : Text) : Checked Text :=
  match optional v key with
  | some part => textOf part
  | none => .ok default

/-- The texts under a key that may be missing. -/
def optionalTexts (v : Value) (key place : Text) : Checked (List Text) :=
  match optional v key with
  | some part => texts part place
  | none => .ok []

end BuildDispatch.Config
