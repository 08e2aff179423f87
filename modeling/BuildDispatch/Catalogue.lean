import BuildDispatch.Bindings
import BuildDispatch.Failure
import BuildDispatch.Value.Text

/-!
# The catalogue of operations

The entries that a configuration declares, each under its name and its aliases. Every name leads
to the entry it belongs to; the names of an entry stand together, in the order of the file.
-/

namespace BuildDispatch

/-- A tool that an operation needs, with the arguments that check for it and that install it. -/
structure HelperTool where
  name : Text
  checkArgs : List Text
  installArgs : List Text
deriving Repr, DecidableEq

inductive Kind
  /-- A single command. -/
  | forward
  /-- A command that needs a helper tool, which is installed where it is missing. -/
  | helper
  /-- A report on date, directory and environment. -/
  | info
  | unknown (name : Text)
deriving Repr, DecidableEq

namespace Kind

def text : Kind → Text
  | forward => "forward"
  | helper => "helper"
  | info => "info"
  | unknown name => name

def ofText (t : Text) : Kind :=
  if t = "forward" then forward
  else if t = "helper" then helper
  else if t = "info" then info
  else unknown t

end Kind

structure Entry where
  name : Text
  kind : Kind
  description : Text := []
  args : List Text := []
  /-- Whether the operation runs in the environment of a build. -/
  usesBuildEnv : Bool := false
  /-- The channel that the tool is told to use, of whatever kind the file has it. -/
  channel : Value := .null
  /-- The tag of the output lines to drop, of whatever kind the file has it. -/
  outputFilter : Value := .null
  aliases : List Text := []
  helper : Option HelperTool := none
deriving Repr

/-- All names that lead to the entry. -/
def Entry.names (e : Entry) : List Text := e.name :: e.aliases

/-- Every name with the entry it leads to. -/
abbrev Catalogue := Bindings Entry

namespace Catalogue

/-- Put an entry under all of its names. -/
def add (c : Catalogue) (e : Entry) : Catalogue :=
  c.insertAll (e.names.map fun name => (name, e))

/-- Put an entry under all of its names, none of which may be in use. -/
def addNew (c : Catalogue) (e : Entry) : Except ConfigFault Catalogue :=
  e.names.foldlM (fun c name =>
    if c.contains name then .error (.duplicateName name) else .ok (c.insert name e)) c

def ofEntries (entries : List Entry) : Catalogue := entries.foldl add .empty

/-- The entry under a name. -/
def entry (c : Catalogue) (name : Text) : Except Failure Entry :=
  match c.find? name with
  | some e => .ok e
  | none => .error (.noSuchEntry name)

/-- Drop the entries whose names occurred before. -/
def distinctFrom (seen : List Text) : List Entry → List Entry
  | [] => []
  | e :: rest =>
    if e.name ∈ seen then distinctFrom seen rest else e :: distinctFrom (e.name :: seen) rest

/-- The entries, each once, in the order of the names. -/
def entries (c : Catalogue) : List Entry := distinctFrom [] (c.toList.map Prod.snd)

end Catalogue
end BuildDispatch
