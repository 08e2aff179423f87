import BuildDispatch.Catalogue
import BuildDispatch.Text.Quoted

/-!
# Operations

An operation is a catalogue entry that is ready to run. A helper operation has its helper tool
with it.
-/

namespace BuildDispatch

inductive Operation
  | forward (entry : Entry)
  | helper (entry : Entry) (tool : HelperTool)
  | info (entry : Entry)
deriving Repr

namespace Operation

def entry : Operation → Entry
  | forward e | helper e _ | info e => e

/-- The operation of an entry, if its kind is known and it has the helper tool it needs. -/
def ofEntry (e : Entry) : Except Failure Operation :=
  match e.kind with
  | .forward => .ok (.forward e)
  | .helper =>
    match e.helper with
    | some tool => .ok (.helper e tool)
    | none => .error (.noHelper e.name)
  | .info => .ok (.info e)
  | .unknown name => .error (.unknownKind name)

def name (o : Operation) : Text := o.entry.name

def usesBuildEnv (o : Operation) : Bool := o.entry.usesBuildEnv

def kindLabel : Operation → String
  | forward _ => "ToolchainOperation"
  | helper .. => "HelperToolOperation"
  | info _ => "InfoOperation"

/-- The operation as it is written for diagnosis. -/
def text (o : Operation) : Text := o.kindLabel ++ "(" ++ Text.quoted o.name ++ ")"

end Operation
end BuildDispatch
