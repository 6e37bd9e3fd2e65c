/-! # Text

A text is the list of its code points.  Literals are written as strings and coerced.  The
functions here look for a fixed piece in a text: at its start (`after?`), anywhere (`holds`), or
everywhere (`replaceAll`). -/

namespace MetaDesk

/-- A text is the list of its code points; positions and lengths count code points. -/
abbrev Text := List Char

instance : Coe String Text := ⟨String.toList⟩

namespace Text

/-- What follows `piece` in a text that starts with it. -/
def after? (piece : Text) (t : Text) : Option Text :=
  if piece.isPrefixOf t then some (t.drop piece.length) else none

/-- The text has `piece` somewhere in it. -/
def holds (piece : Text) : Text → Bool
  | [] => piece.isEmpty
  | c :: rest => piece.isPrefixOf (c :: rest) || holds piece rest

/-- The first thing that `f` reads, at the leftmost place where it reads one. -/
def search {α : Type} (f : Text → Option α) : Text → Option α
  | [] => f []
  | c :: rest =>
    match f (c :: rest) with
    | some a => some a
    | none => search f rest

/-- Replace `piece`, from left to right, after the next `skip` characters are passed over. -/
def replaceFrom (piece value : Text) : Nat → Text → Text
  | _, [] => []
  | skip + 1, _ :: rest => replaceFrom piece value skip rest
  | 0, c :: rest =>
    if piece.isPrefixOf (c :: rest) then
      value ++ replaceFrom piece value (piece.length - 1) rest
    else c :: replaceFrom piece value 0 rest

/-- Replace every occurrence of a nonempty `piece` that does not overlap an earlier one. -/
def replaceAll (piece value t : Text) : Text := replaceFrom piece value 0 t

/-- Put one character in place of another. -/
def swap (old new : Char) (t : Text) : Text := t.map fun c => if c = old then new else c

/-- The pieces between occurrences of a character; one more than there are occurrences. -/
def splitOn (sep : Char) : Text → List Text
  | [] => [[]]
  | c :: rest =>
    if c = sep then [] :: splitOn sep rest
    else match splitOn sep rest with
      | [] => [[c]]
      | piece :: pieces => (c :: piece) :: pieces

/-- Texts in a row with `sep` between neighbours. -/
def joinWith (sep : Text) : List Text → Text
  | [] => []
  | [t] => t
  | t :: u :: ts => t ++ sep ++ joinWith sep (u :: ts)

/-- Code-point order, the shorter of two texts first when it starts the longer one. -/
def before : Text → Text → Bool
  | [], [] => false
  | [], _ :: _ => true
  | _ :: _, [] => false
  | a :: s, b :: t => a.toNat < b.toNat || (a == b && before s t)

/-- `a` may stand before `b` in a sorted list. -/
def notAfter (a b : Text) : Bool := !before b a

/-- The decimal digits of a natural number. -/
def ofNat (n : Nat) : Text := Nat.toDigits 10 n

/-- The decimal digits of an integer, after a minus sign when it is negative. -/
def ofInt : Int → Text
  | .ofNat n => ofNat n
  | .negSucc n => '-' :: ofNat (n + 1)

theorem splitOn_ne_nil (sep : Char) (t : Text) : splitOn sep t ≠ [] := by
  cases t with
  | nil => simp [splitOn]
  | cons c rest =>
    rw [splitOn]
    split
    · simp
    · split <;> simp

theorem joinWith_splitOn (sep : Char) (t : Text) : joinWith [sep] (splitOn sep t) = t := by
  induction t with
  | nil => rfl
  | cons c rest ih =>
    rw [splitOn]
    split
    · next h =>
      subst h
      cases hs : splitOn c rest with
      | nil => exact absurd hs (splitOn_ne_nil c rest)
      | cons p ps => rw [hs] at ih; simp [joinWith, ih]
    · cases hs : splitOn sep rest with
      | nil => exact absurd hs (splitOn_ne_nil sep rest)
      | cons p ps =>
        rw [hs] at ih
        cases ps with
        | nil => simpa [joinWith] using ih
        | cons q qs => simpa [joinWith] using ih

end Text

end MetaDesk
