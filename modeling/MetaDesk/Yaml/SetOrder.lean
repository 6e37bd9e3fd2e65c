import MetaDesk.Yaml.Atom

/-! # The order of a set of numbers

A set keeps its members in a table of slots, each at the slot that its hash asks for or at the next
free one, and tells them slot by slot.  The hash of a number is its remainder modulo the prime
`2 ^ 61 - 1`, so that equal numbers have the same one. -/

namespace MetaDesk.Yaml.SetOrder

/-- The modulus of hashes. -/
def modulus : Nat := Nat.pow 2 61 - 1

/-- The remainder of `2 ^ e`, whose powers repeat after 61. -/
def powerOfTwo (e : Int) : Nat := Nat.pow 2 (Int.emod e 61).toNat

/-- The hash of a number, as a word of 64 bits. -/
def hashOf (negative : Bool) (remainder : Nat) : Nat :=
  if remainder = 0 then 0
  else if negative then Nat.pow 2 64 - (if remainder = 1 then 2 else remainder)
  else remainder

/-- The hash of an atom, if it is a number. -/
def hash? : Atom → Option Nat
  | .truth b => some (if b then 1 else 0)
  | .integer n => some (hashOf (n < 0) (n.natAbs % modulus))
  | .real (.finite s m e) => some (hashOf s (m * powerOfTwo e % modulus))
  | .real (.infinite s) => some (hashOf s 314159)
  | _ => none

/-- A member and its hash. -/
abbrev Member := Nat × Nat

/-- A table of slots. -/
abbrev Slots := Array (Option Member)

/-- The slots to try for a hash: after a run of neighbours a jump, which takes more and more of the
hash into account. -/
def firstFree (slots : Slots) : Nat → Nat → Nat → Nat
  | 0, i, _ => i
  | fuel + 1, i, rest =>
    let run := if i + 9 < slots.size then 10 else 1
    match (List.range run).find? fun k => (slots.getD (i + k) none).isNone with
    | some k => i + k
    | none =>
      let rest := rest / 32
      firstFree slots fuel ((5 * i + 1 + rest) % slots.size) rest

/-- Put a member into the table. -/
def place (slots : Slots) (m : Member) : Slots :=
  slots.setIfInBounds (firstFree slots (slots.size + 64) (m.2 % slots.size) m.2) (some m)

/-- The least size of a table that is above a number. -/
def sizeAbove (n : Nat) : Nat := 8 * Nat.pow 2 (Nat.log2 (n / 8) + if n < 8 then 0 else 1)

/-- The table in another size. -/
def resize (slots : Slots) (size : Nat) : Slots :=
  (slots.toList.filterMap id).foldl place (Array.replicate size none)

/-- Put a member into the table, which grows when three fifths of it are full. -/
def insert (slots : Slots) (m : Member) : Slots :=
  let slots := place slots m
  let used := (slots.toList.filterMap id).length
  if 5 * used < 3 * (slots.size - 1) then slots
  else resize slots (sizeAbove (if 50000 < used then 2 * used else 4 * used))

/-- The members in the order of their slots. -/
def ordered (members : List Member) : List Nat :=
  let start := if 5 * members.length < 21 then 8 else sizeAbove (2 * members.length)
  let slots := members.foldl insert (Array.replicate start none)
  (slots.toList.filterMap id).map (·.1)

end MetaDesk.Yaml.SetOrder
