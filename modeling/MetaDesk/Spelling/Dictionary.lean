import MetaDesk.Keyed
import MetaDesk.Spelling.Distance
import MetaDesk.Text.Letter

/-! # Dictionaries

A dictionary holds the names that a misspelled one may stand for, in drawers by the upper form of
their first character.  `closest` looks into the drawer of a token, and into those of the
neighbouring letters when that one has nothing close. -/

namespace MetaDesk.Spelling

/-- Names in drawers, each drawer in the order in which its names came in. -/
structure Dictionary where
  drawers : Keyed Text (List Text) := []
deriving DecidableEq, Repr

/-- A name that a token may stand for. -/
structure Match where
  name : Text
  distance : Nat
deriving DecidableEq, Repr

namespace Match

/-- The token is one slip away. -/
def isClose (m : Match) : Bool := m.distance = 1

/-- Order by distance, and by name among equals. -/
def notAfter (m n : Match) : Bool :=
  let a := Text.lower m.name
  let b := Text.lower n.name
  m.distance < n.distance
    || (m.distance == n.distance && (Text.before a b || (a == b && Text.notAfter m.name n.name)))

end Match

/-- A first character has no neighbours, because its upper form is not one character. -/
structure ManyLetters where
  letters : Text
deriving DecidableEq, Repr

namespace Dictionary

/-- Shorter names and tokens are too common. -/
def shortest : Nat := 3

/-- Shorter tokens are not looked for under neighbouring letters. -/
def shortestNearby : Nat := 4

/-- The drawer of a name. -/
def drawerOf (name : Text) : Text := (name.take 1).flatMap Text.upperChar

/-- The names in a drawer. -/
def drawer (d : Dictionary) (letter : Text) : List Text := (d.drawers.get? letter).getD []

/-- The name is in the dictionary as it is written. -/
def contains (d : Dictionary) (name : Text) : Bool := (d.drawer (drawerOf name)).contains name

/-- Put a name into its drawer, unless it is too short or there already. -/
def add (d : Dictionary) (name : Text) : Dictionary :=
  if name.length < shortest || d.contains name then d
  else ⟨d.drawers.put (drawerOf name) (d.drawer (drawerOf name) ++ [name])⟩

/-- The dictionary of some names. -/
def ofNames (names : List Text) : Dictionary := names.foldl add {}

/-- All names. -/
def names (d : Dictionary) : List Text := d.drawers.flatMap (·.2)

/-- The names close to a token in lower case. -/
def closeNames (most : Int) (lowered : Text) (names : List Text) : List Match :=
  names.filterMap fun name =>
    if most < ((name.length : Int) - lowered.length).natAbs then none
    else (distanceWithin? most lowered (Text.lower name)).map fun n => ⟨name, n⟩

/-- The capital letters before and after a character. -/
def neighbours (letters : Text) : Except ManyLetters (List Text) :=
  match letters with
  | [c] =>
    let codes := [c.toNat - 1, c.toNat + 1].filter fun n => 'A'.toNat ≤ n && n ≤ 'Z'.toNat
    .ok (codes.map fun n => [Char.ofNat n])
  | _ => .error ⟨letters⟩

/-- The first so many, or all but the last so many when the number is negative. -/
def firstOf {α : Type} (n : Int) (xs : List α) : List α :=
  if 0 ≤ n then xs.take n.toNat else xs.take (xs.length - n.natAbs)

/-- The names that are close enough, in no particular order. -/
def close (d : Dictionary) (most : Int) (token : Text) : Except ManyLetters (List Match) := do
  let lowered := Text.lower token
  let letters := drawerOf token
  let found := closeNames most lowered (d.drawer letters)
  if !found.isEmpty || token.length < shortestNearby then return found
  return (← neighbours letters).flatMap fun letter => closeNames most lowered (d.drawer letter)

/-- The closest names, the best first.  A token that is short or right has none. -/
def closest (d : Dictionary) (token : Text) (most : Int := 2) (count : Int := 3) :
    Except ManyLetters (List Match) := do
  if token.length < shortest || d.contains token then return []
  return firstOf count ((← d.close most token).mergeSort Match.notAfter)

theorem drawer_add_of_ne {d : Dictionary} {name letter : Text} (h : letter ≠ drawerOf name) :
    (d.add name).drawer letter = d.drawer letter := by
  simp only [add, drawer]
  split
  · rfl
  · simp [Keyed.get?_put, h]

end Dictionary

end MetaDesk.Spelling
