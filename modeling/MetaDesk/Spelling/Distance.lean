import MetaDesk.Text.Basic

/-! # The distance of two texts

The distance is the least number of insertions, removals and exchanges of one character that lead
from one text to the other.  It is computed in rows: a row belongs to a beginning of the longer
text and holds the distances of that from all beginnings of the shorter one, the empty one first.
The row of one more character is made from it, cell by cell.  Nobody asks for distances above a
bound, so the rows end as soon as all cells of one are above it. -/

namespace MetaDesk.Spelling

/-- What it takes to put `d` in the place of `c`. -/
def exchangeCost (c d : Char) : Nat := if c = d then 0 else 1

/-- The cells of the next row after its first one.  `corner` is the cell of the old row before
those that are left, and `last` the cell that was made last. -/
def cellsAfter (c : Char) : Nat → Nat → Text → List Nat → List Nat
  | corner, last, d :: b, above :: row =>
    let cell := min (min (above + 1) (last + 1)) (corner + exchangeCost c d)
    cell :: cellsAfter c above cell b row
  | _, _, _, _ => []

/-- The row of a beginning of length `n` that ends in `c`, made from that of the one before. -/
def nextRow (c : Char) (n : Nat) (b : Text) : List Nat → List Nat
  | corner :: row => n :: cellsAfter c corner n b row
  | [] => []

/-- All cells of a row are above the bound. -/
def isBeyond (most : Int) (row : List Nat) : Bool := row.all fun n => most < n

/-- The row of a text, made from that of its first `n` characters and from the others; none when
the rows end before. -/
def lastRow? (most : Int) (b : Text) : Nat → List Nat → Text → Option (List Nat)
  | _, row, [] => some row
  | n, row, c :: a =>
    let next := nextRow c (n + 1) b row
    if isBeyond most next then none else lastRow? most b (n + 1) next a

/-- A distance that is not above the bound. -/
def atMost? (most : Int) (n : Nat) : Option Nat := if (n : Int) ≤ most then some n else none

/-- The distance of two texts of which the first is not longer, if it is not above the bound. -/
def distanceByRows? (most : Int) (shorter longer : Text) : Option Nat :=
  (lastRow? most shorter 0 (List.range (shorter.length + 1)) longer).bind fun row =>
    row.getLast?.bind (atMost? most)

/-- The distance of two texts, if it is not above the bound. -/
def distanceWithin? (most : Int) (a b : Text) : Option Nat :=
  if most < ((a.length : Int) - b.length).natAbs then none
  else if a.isEmpty || b.isEmpty then
    atMost? most (if a.isEmpty then b.length else a.length)
  else if a.length < b.length then distanceByRows? most a b
  else distanceByRows? most b a

end MetaDesk.Spelling
