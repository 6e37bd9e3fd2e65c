import MetaDesk.Spelling.Dictionary

/-! # Checkers

A checker makes its dictionary when it is first needed and keeps it until it is told to forget it,
so that names which are added meanwhile are not seen before. -/

namespace MetaDesk.Spelling

/-- Where a checker has its names from. -/
inductive NameSource where
  /-- Names that do not change. -/
  | fixed (names : List Text)
  /-- Names that may change, and how often they were asked for. -/
  | changing (names : List Text) (asked : Nat)
deriving DecidableEq, Repr

namespace NameSource

/-- The names as they are now. -/
def names : NameSource → List Text
  | .fixed ns => ns
  | .changing ns _ => ns

/-- How often changing names were asked for. -/
def asked : NameSource → Nat
  | .fixed _ => 0
  | .changing _ n => n

/-- Ask for the names. -/
def ask : NameSource → NameSource
  | .fixed ns => .fixed ns
  | .changing ns n => .changing ns (n + 1)

/-- Another name, where names may change. -/
def add : NameSource → Text → NameSource
  | .fixed ns, _ => .fixed ns
  | .changing ns n, name => .changing (ns ++ [name]) n

end NameSource

/-- A checker. -/
structure Checker where
  source : NameSource
  /-- The dictionary, once it is made. -/
  dictionary : Option Dictionary := none
deriving DecidableEq, Repr

namespace Checker

/-- The dictionary, which is made if need be. -/
def index (c : Checker) : Dictionary × Checker :=
  match c.dictionary with
  | some d => (d, c)
  | none =>
    let d := Dictionary.ofNames c.source.names
    (d, ⟨c.source.ask, some d⟩)

/-- Forget the dictionary. -/
def invalidate (c : Checker) : Checker := { c with dictionary := none }

/-- Add a name to the source. -/
def add (c : Checker) (name : Text) : Checker := { c with source := c.source.add name }

/-- The name is in the dictionary. -/
def contains (c : Checker) (name : Text) : Bool × Checker :=
  (c.index.1.contains name, c.index.2)

/-- The closest names; a short token does not need the dictionary. -/
def find (c : Checker) (token : Text) (most : Int := 2) (count : Int := 3) :
    Except ManyLetters (List Match) × Checker :=
  if token.length < Dictionary.shortest then (.ok [], c)
  else (c.index.1.closest token most count, c.index.2)

end Checker

end MetaDesk.Spelling
