import BuildDispatch.Calendar.Text
import BuildDispatch.Number.Text
import BuildDispatch.Text.Quoted
import BuildDispatch.Value

/-!
# Values as text

`Value.text` is what a value reads as where text is expected; a text stands for itself.
`Heap.literal` is how a value is written inside a container, where texts are quoted and dates
spelled out. The two differ in texts and dates alone. A container that is met inside of itself is
written as an ellipsis. Only whole numbers of too many digits have no text.
-/

namespace BuildDispatch

open Text

/-- Arguments between round brackets. -/
private def call (name : String) (arguments : List String) : String :=
  name ++ "(" ++ ", ".intercalate arguments ++ ")"

namespace Date

def arguments (d : Date) : List String := [toString d.year, toString d.month, toString d.day]

def literal (d : Date) : String := call "datetime.date" d.arguments

end Date

namespace Moment

/-- A length of time as whole days and the seconds beyond them, which are never negative. -/
def lengthLiteral (minutes : Int) : String :=
  let days := minutes * 60 / 86400
  let seconds := minutes * 60 % 86400
  call "datetime.timedelta"
    ((if days = 0 then [] else ["days=" ++ toString days]) ++
      (if seconds = 0 then [] else ["seconds=" ++ toString seconds]))

def offsetLiteral (minutes : Int) : String :=
  "tzinfo=" ++ (if minutes = 0 then "datetime.timezone.utc"
    else call "datetime.timezone" [lengthLiteral minutes])

/-- Seconds and microseconds are left out where they and all that follows are zero. -/
def literal (m : Moment) : String :=
  let small := if m.time.microsecond ≠ 0 then [m.time.second, m.time.microsecond]
    else if m.time.second ≠ 0 then [m.time.second] else []
  let numbers := m.time.hour :: m.time.minute :: small
  let zone := match m.offset with
    | none => []
    | some minutes => [offsetLiteral minutes]
  call "datetime.datetime" (m.date.arguments ++ numbers.map (fun n => toString n) ++ zone)

end Moment

/-- Why a value has no text. -/
inductive Unwritable
  | tooManyDigits
deriving Repr, DecidableEq

/-- Whole numbers of more decimal digits than this are neither written nor read. -/
def digitLimit : Nat := 4300

/-- What to do about the limit. -/
def digitAdvice : String := "use sys.set_int_max_str_digits() to increase the limit"

def digitComplaint : String :=
  "Exceeds the limit (" ++ toString digitLimit ++ " digits) for integer string conversion"

def Unwritable.message : Unwritable → String
  | tooManyDigits => digitComplaint ++ "; " ++ digitAdvice

abbrev Written (α : Type) := Except Unwritable α

/-- A whole number in decimal digits. -/
def intText (n : Int) : Written Text :=
  if digitLimit < (toString n.natAbs).length then .error .tooManyDigits else .ok (toString n)

namespace Shape

variable {α : Type}

/-- What a container is written as inside of itself. -/
def ellipsis : Shape α → Text
  | list _ => "[...]"
  | pair .. => "(...)"
  | set _ => "set(...)"
  | mapping _ => "\x7b...\x7d"
  | _ => "..."

/-- How a value is written whose parts `part` writes. -/
def literalWith (part : α → Written Text) : Shape α → Written Text
  | null => .ok "None"
  | bool b => .ok (if b then "True" else "False")
  | int n => intText n
  | float x => .ok x.text
  | str t => .ok (quoted t)
  | date d => .ok d.literal
  | moment m => .ok m.literal
  | bytes octets => .ok (quotedOctets octets)
  | list items => do
    let texts ← items.mapM part
    .ok ("[" ++ joinWith ", " texts ++ "]")
  | pair key value => do
    let keyText ← part key
    let valueText ← part value
    .ok ("(" ++ keyText ++ ", " ++ valueText ++ ")")
  | set members => do
    if members.isEmpty then .ok "set()"
    else
      let texts ← members.mapM part
      .ok ("\x7b" ++ joinWith ", " texts ++ "\x7d")
  | mapping entries => do
    let texts ← entries.mapM fun entry => do
      let keyText ← part entry.1
      let valueText ← part entry.2
      .ok (keyText ++ ": " ++ valueText)
    .ok ("\x7b" ++ joinWith ", " texts ++ "\x7d")

/-- The name of a value's kind. -/
def kindName : Shape α → String
  | null => "NoneType"
  | bool _ => "bool"
  | int _ => "int"
  | float _ => "float"
  | str _ => "str"
  | date _ => "date"
  | moment _ => "datetime"
  | bytes _ => "bytes"
  | list _ => "list"
  | pair .. => "tuple"
  | set _ => "set"
  | mapping _ => "dict"

/-- The name of a value's kind, with the library that a date belongs to. -/
def fullKindName : Shape α → String
  | date _ => "datetime.date"
  | moment _ => "datetime.datetime"
  | s => s.kindName

end Shape

namespace Heap

/-- How the value at a place is written inside of the containers at the places `around`. Since these
are all different, the nesting ends within as many steps as the heap has places. -/
def literalFrom (h : Heap) : Nat → List Place → Place → Written Text
  | 0, _, p => .ok (h.look p).ellipsis
  | fuel + 1, around, p =>
    if p ∈ around then .ok (h.look p).ellipsis
    else (h.look p).literalWith (h.literalFrom fuel (p :: around))

end Heap

namespace Value

def literal (v : Value) : Written Text :=
  v.heap.literalFrom (v.heap.shapes.size + 1) [] v.place

def text (v : Value) : Written Text :=
  match v.view with
  | .str t => .ok t
  | .date d => .ok d.text
  | .moment m => .ok m.text
  | _ => v.literal

def kindName (v : Value) : String := v.view.kindName

def fullKindName (v : Value) : String := v.view.fullKindName

end Value
end BuildDispatch
