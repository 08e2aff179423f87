import BuildDispatch.Calendar
import BuildDispatch.Number.Double
import BuildDispatch.Text.Utf8

/-!
# Values

The values that a configuration file may hold. Since a container may hold itself, a value is a place
in a heap; the shape at a place says what the value is, with further places for its parts.

## Main definitions

* `Shape`: what a value is, over a type of parts.
* `Heap`, `Value`: the shapes of all places, and one of the places.
* `Value.view`: a value as a shape whose parts are values.
* `Heap.sameKey`: when two values are one key of a mapping.
* `Tree`: a value without cycles, written out.
-/

namespace BuildDispatch

inductive Shape (α : Type)
  | null
  | bool (b : Bool)
  | int (n : Int)
  | float (x : Double)
  | str (t : Text)
  | date (d : Date)
  | moment (m : Moment)
  | bytes (octets : Octets)
  | list (items : List α)
  /-- A key and a value that stand together in a list. -/
  | pair (key value : α)
  | set (members : List α)
  /-- Entries in order, no key twice. -/
  | mapping (entries : List (α × α))
deriving Repr, Inhabited

namespace Shape

variable {α β : Type}

/-- The same shape over other parts. -/
def onParts (f : α → β) : Shape α → Shape β
  | null => null
  | bool b => bool b
  | int n => int n
  | float x => float x
  | str t => str t
  | date d => date d
  | moment m => moment m
  | bytes octets => bytes octets
  | list items => list (items.map f)
  | pair key value => pair (f key) (f value)
  | set members => set (members.map f)
  | mapping entries => mapping (entries.map fun entry => (f entry.1, f entry.2))

/-- The number that a value counts as, when keys are compared. -/
def number? : Shape α → Option (Int ⊕ Double)
  | bool b => some (.inl (if b then 1 else 0))
  | int n => some (.inl n)
  | float x => some (.inr x)
  | _ => none

def sameNumber : Int ⊕ Double → Int ⊕ Double → Bool
  | .inl a, .inl b => a == b
  | .inl a, .inr x => x.toInt? == some a
  | .inr x, .inl a => x.toInt? == some a
  | .inr x, .inr y => x.agrees y

/-- Whether two values without parts are equal: numbers are whatever their kinds, other values only
to values of their own kind. -/
def agrees (a b : Shape α) : Bool :=
  match a.number?, b.number? with
  | some x, some y => sameNumber x y
  | none, none =>
    match a, b with
    | null, null => true
    | str s, str t => s == t
    | date d, date e => d == e
    | moment m, moment n => m.agrees n
    | bytes o, bytes p => o == p
    | _, _ => false
  | _, _ => false

/-- Whether a value may be a key. -/
def isKey : Shape α → Bool
  | list _ | set _ | mapping _ => false
  | _ => true

/-- Empty containers and texts, zeros, `false` and `null` count as nothing. -/
def isNothing : Shape α → Bool
  | null => true
  | bool b => !b
  | int n => n == 0
  | float x => x.isZero
  | str t => t.isEmpty
  | bytes octets => octets.isEmpty
  | list items => items.isEmpty
  | set members => members.isEmpty
  | mapping entries => entries.isEmpty
  | date _ | moment _ | pair .. => false

end Shape

/-! ### Heaps -/

abbrev Place := Nat

structure Heap where
  shapes : Array (Shape Place)
deriving Repr

namespace Heap

/-- The place of the one value that every plain `nan` is. -/
def sharedNan : Place := 0

def start : Heap := ⟨#[.float .nan]⟩

def look (h : Heap) (p : Place) : Shape Place := h.shapes.getD p .null

/-- A new place with a shape. -/
def add (h : Heap) (s : Shape Place) : Heap × Place := (⟨h.shapes.push s⟩, h.shapes.size)

def put (h : Heap) (p : Place) (s : Shape Place) : Heap := ⟨h.shapes.setIfInBounds p s⟩

/-- Whether the values at two places are one key: the same place holds one key, and so do equal
values. A `nan` is equal to nothing, so it is one key with itself by its place alone. -/
def sameKey (h : Heap) (p q : Place) : Bool := p == q || (h.look p).agrees (h.look q)

/-- Give a key a value: in its place if the mapping has it, else last. -/
def bind (h : Heap) (key value : Place) : List (Place × Place) → List (Place × Place)
  | [] => [(key, value)]
  | entry :: rest =>
    if h.sameKey entry.1 key then (entry.1, value) :: rest else entry :: h.bind key value rest

/-- The entries that some pairs give one after the other: of one key the last value counts. -/
def ofPairs (h : Heap) (pairs : List (Place × Place)) : List (Place × Place) :=
  pairs.foldl (fun entries pair => h.bind pair.1 pair.2 entries) []

@[simp] theorem look_add (h : Heap) (s : Shape Place) : (h.add s).1.look (h.add s).2 = s := by
  simp [add, look]

theorem look_add_of_lt (h : Heap) (s : Shape Place) {p : Place} (hp : p < h.shapes.size) :
    (h.add s).1.look p = h.look p := by
  simp only [add, look, Array.getD_eq_getD_getElem?, Array.getElem?_push]
  simp [Nat.ne_of_lt hp]

theorem look_put_self (h : Heap) (s : Shape Place) {p : Place} (hp : p < h.shapes.size) :
    (h.put p s).look p = s := by
  simp [put, look, hp]

theorem look_put_of_ne (h : Heap) (s : Shape Place) {p q : Place} (hpq : q ≠ p) :
    (h.put p s).look q = h.look q := by
  simp [put, look, Array.getElem?_setIfInBounds_ne (Ne.symm hpq)]

@[simp] theorem sameKey_self (h : Heap) (p : Place) : h.sameKey p p := by
  simp [sameKey]

end Heap

/-! ### Values -/

structure Value where
  heap : Heap
  place : Place
deriving Repr

namespace Value

/-- What a value is, its parts being values. -/
def view (v : Value) : Shape Value := (v.heap.look v.place).onParts fun p => ⟨v.heap, p⟩

def ofShape (s : Shape Place) : Value :=
  let (heap, place) := Heap.start.add s
  ⟨heap, place⟩

def null : Value := ofShape .null

def emptyMapping : Value := ofShape (.mapping [])

/-- The value at a text key. -/
def lookup (key : Text) : List (Value × Value) → Option Value
  | [] => none
  | (k, v) :: rest =>
    match k.view with
    | .str t => if t = key then some v else lookup key rest
    | _ => lookup key rest

def isNothing (v : Value) : Bool := v.view.isNothing

end Value

/-! ### Trees -/

/-- A value that is written out. -/
inductive Tree
  | null
  | bool (b : Bool)
  | int (n : Int)
  | float (x : Double)
  | str (t : Text)
  | list (items : List Tree)
  /-- Pairs one after the other: of one key the last value counts. -/
  | mapping (pairs : List (Tree × Tree))
deriving Repr, Inhabited

namespace Heap

mutual

/-- Put a tree into a heap. -/
def addTree (h : Heap) : Tree → Heap × Place
  | .null => h.add .null
  | .bool b => h.add (.bool b)
  | .int n => h.add (.int n)
  | .float .nan => (h, sharedNan)
  | .float x => h.add (.float x)
  | .str t => h.add (.str t)
  | .list items =>
    let (h, places) := h.addTrees items
    h.add (.list places)
  | .mapping pairs =>
    let (h, places) := h.addPairs pairs
    h.add (.mapping (h.ofPairs places))

def addTrees (h : Heap) : List Tree → Heap × List Place
  | [] => (h, [])
  | t :: rest =>
    let (h, place) := h.addTree t
    let (h, places) := h.addTrees rest
    (h, place :: places)

def addPairs (h : Heap) : List (Tree × Tree) → Heap × List (Place × Place)
  | [] => (h, [])
  | (key, value) :: rest =>
    let (h, keyPlace) := h.addTree key
    let (h, valuePlace) := h.addTree value
    let (h, places) := h.addPairs rest
    (h, (keyPlace, valuePlace) :: places)

end

end Heap

def Value.ofTree (t : Tree) : Value :=
  let (heap, place) := Heap.start.addTree t
  ⟨heap, place⟩

end BuildDispatch
