import MetaDesk.Text.Basic

/-! # Paths

A path is a root, or none, and the names from there on.  Reading one drops empty names and single
dots and keeps double dots, which only `collapse` takes away; all functions here look at names and
never at a disk. -/

namespace MetaDesk

/-- Where a path starts: nowhere, at the root, or at the root written with two slashes. -/
inductive Root where
  | none
  | single
  | double
deriving DecidableEq, Repr

/-- A path, as its names. -/
structure Path where
  root : Root
  names : List Text
deriving DecidableEq, Repr

namespace Path

/-- The root that a text starts with; three slashes and more count as one. -/
def rootOf : Text → Root
  | '/' :: '/' :: '/' :: _ => .single
  | '/' :: '/' :: _ => .double
  | '/' :: _ => .single
  | _ => .none

/-- A name that a path keeps. -/
def isKept (name : Text) : Bool := !name.isEmpty && name != ['.']

/-- The names in a text. -/
def namesOf (t : Text) : List Text := (Text.splitOn '/' t).filter isKept

/-- Read a path. -/
def ofText (t : Text) : Path := ⟨rootOf t, namesOf t⟩

/-- The slashes of a root. -/
def rootText : Root → Text
  | .none => ""
  | .single => "/"
  | .double => "//"

/-- The root and the names with slashes between them; a path without either is a dot. -/
def text (p : Path) : Text :=
  match rootText p.root ++ Text.joinWith ['/'] p.names with
  | [] => "."
  | t => t

/-- The path starts at the root. -/
def isAbsolute (p : Path) : Bool := p.root != .none

/-- The last name, empty at the root. -/
def name (p : Path) : Text := p.names.getLast?.getD []

/-- The path without its last name. -/
def parent (p : Path) : Path := ⟨p.root, p.names.dropLast⟩

/-- The paths above a path, from the nearest on. -/
def parents (p : Path) : List Path :=
  ((List.range p.names.length).map fun n => ⟨p.root, p.names.take n⟩).reverse

/-- `q` as seen from `p`: `q` itself when it starts at the root. -/
def join (p q : Path) : Path := if q.isAbsolute then q else ⟨p.root, p.names ++ q.names⟩

/-- A file or folder in a folder, by a relative path. -/
def child (p : Path) (t : Text) : Path := p.join (ofText t)

/-- The parts of a name before and from its last dot on.  A dot at either end does not count. -/
def splitName (name : Text) : Text × Text :=
  let back := name.reverse
  let tail := back.takeWhile (· != '.')
  let rest := back.drop (tail.length + 1)
  if tail.isEmpty || rest.isEmpty then (name, []) else (rest.reverse, '.' :: tail.reverse)

/-- The end of the last name from its dot on. -/
def suffix (p : Path) : Text := (splitName p.name).2

/-- The path with another last name. -/
def withName (p : Path) (name : Text) : Path := ⟨p.root, p.names.dropLast ++ [name]⟩

/-- The path with another suffix; there is none when it has no name. -/
def withSuffix? (p : Path) (suffix : Text) : Option Path :=
  if p.name.isEmpty then none else some (p.withName ((splitName p.name).1 ++ suffix))

/-- The name that goes up. -/
def up : Text := ['.', '.']

/-- Put one more name on names kept in reverse, a double dot taking one away.  At the root there
is nothing to take away; elsewhere such a double dot stays. -/
def push (rooted : Bool) (back : List Text) (name : Text) : List Text :=
  if name = up then
    match back with
    | [] => if rooted then [] else [up]
    | last :: rest => if last = up then up :: back else rest
  else name :: back

/-- The path without double dots, as far as names alone can tell. -/
def collapse (p : Path) : Path :=
  ⟨p.root, (p.names.foldl (push p.isAbsolute) []).reverse⟩

/-- Drop the names that two lists start with. -/
def dropShared : List Text → List Text → List Text × List Text
  | a :: as, b :: bs => if a = b then dropShared as bs else (a :: as, b :: bs)
  | as, bs => (as, bs)

/-- The way from the folder `start` to `p`, both taken from the folder `here`. -/
def relativeTo (here start p : Path) : Path :=
  let rest := dropShared (here.join start).collapse.names (here.join p).collapse.names
  ⟨.none, rest.1.map (fun _ => up) ++ rest.2⟩

/-- Order by names. -/
def before (p q : Path) : Bool := go (rootNames p) (rootNames q)
where
  /-- The names, the root being the first one. -/
  rootNames (p : Path) : List Text :=
    match p.root with
    | .none => p.names
    | r => rootText r :: p.names
  /-- Order of lists of names. -/
  go : List Text → List Text → Bool
    | [], [] => false
    | [], _ :: _ => true
    | _ :: _, [] => false
    | a :: as, b :: bs => if a = b then go as bs else Text.before a b

/-- `p` may stand before `q` in a sorted list. -/
def notAfter (p q : Path) : Bool := !before q p

theorem namesOf_kept {t name : Text} (h : name ∈ namesOf t) : isKept name = true :=
  (List.mem_filter.1 h).2

end Path

end MetaDesk
