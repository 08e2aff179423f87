import BuildDispatch.Value

/-!
# Tables of numbers

The order in which a set of numbers holds its members. Each of them falls into a slot of a table, by
a hash that equal numbers share; where that slot is taken, the slots behind it are tried, and then
others farther away. The members stand in the order of their slots. Other members have no hash that
is the same in every run, so a set with one of them keeps the order in which it is written.
-/

namespace BuildDispatch

/-- Hashes are taken modulo this prime, which is one less than a power of two. -/
def hashPrime : Nat := 2305843009213693951

/-- The number of binary digits of `hashPrime`, and so the order of two modulo it. -/
def hashDigits : Nat := 61

/-- A hash with a sign, in 64 binary digits. The hash -1 is not in use. -/
def signedHash (negative : Bool) (h : Nat) : Nat :=
  if negative && 0 < h then 18446744073709551616 - (if h = 1 then 2 else h) else h

namespace Shape

/-- The hash of a number. A fraction has that of its numerator divided, modulo the prime, by the
power of two below it. -/
def hash? {α : Type} : Shape α → Option Nat
  | bool b => some (if b then 1 else 0)
  | int n => some (signedHash (n < 0) (n.natAbs % hashPrime))
  | float (.finite negative m e) =>
    some (signedHash negative (m * Nat.pow 2 (e % hashDigits).toNat % hashPrime))
  | float (.infinite negative) => some (signedHash negative 314159)
  | _ => none

end Shape

namespace Table

/-- The slots of a table for so many members: at least eight, and more than twice as many as
members once there are five of them. -/
def size (members : Nat) : Nat :=
  if members < 5 then 8 else Nat.pow 2 (Nat.log2 (2 * members) + 1)

/-- How many slots behind one are tried, if there are that many. -/
def reach : Nat := 9

/-- The first slot that is free, beginning with `slot`. Once the hash is used up every slot comes
about in turn. -/
def freeSlot (taken : List Nat) (size : Nat) : Nat → Nat → Nat → Nat
  | 0, slot, _ => slot
  | tries + 1, slot, hash =>
    let row := if slot + reach < size then reach + 1 else 1
    match (List.range row).find? fun k => !taken.contains (slot + k) with
    | some k => slot + k
    | none => freeSlot taken size tries ((5 * slot + 1 + hash / 32) % size) (hash / 32)

/-- The slot of each hash. -/
def slots (size : Nat) : List Nat → List Nat → List Nat
  | _, [] => []
  | taken, hash :: rest =>
    let slot := freeSlot taken size (size + 16) (hash % size) hash
    slot :: slots size (slot :: taken) rest

end Table

/-- The members of a set as the set holds them. -/
def Heap.ordered (h : Heap) (members : List Place) : List Place :=
  match members.mapM fun p => (h.look p).hash? with
  | none => members
  | some hashes =>
    let size := Table.size members.length
    let placed := (Table.slots size [] hashes).zip members
    (List.range size).filterMap fun slot =>
      (placed.find? fun entry => entry.1 = slot).map Prod.snd

end BuildDispatch
