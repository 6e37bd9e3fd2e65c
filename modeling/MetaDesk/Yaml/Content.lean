import MetaDesk.Yaml.Atom
import MetaDesk.Yaml.SetOrder

/-! # The content of a document

The values of a document stand in a table, and a collection names its parts by their places there,
so that a collection can be a part of itself.  `shown?` writes a value out, with dots where a
collection comes again inside itself; `unfold` gives a tree of its first levels. -/

namespace MetaDesk.Yaml

/-- An entry of the table. -/
inductive Part where
  | atom (a : Atom)
  | list (items : List Nat)
  | set (items : List Nat)
  | mapping (entries : List (Nat × Nat))
  | pair (first second : Nat)
deriving DecidableEq, Inhabited, Repr

/-- A value as a tree. -/
inductive Value where
  | atom (a : Atom)
  | list (items : List Value)
  | set (items : List Value)
  | mapping (entries : List (Value × Value))
deriving Inhabited, Repr

namespace Value

/-- The kind of a value. -/
def kind : Value → Text
  | .atom a => a.kind
  | .list _ => "list"
  | .set _ => "set"
  | .mapping _ => "dict"

/-- The value is a text. -/
def isText (t : Text) : Value → Bool
  | .atom a => a = .text t
  | _ => false

end Value

/-- The content of a document. -/
structure Content where
  parts : Array Part
  /-- The place of the outermost value. -/
  outermost : Nat
deriving Repr

namespace Content

/-- The part at a place. -/
def part (c : Content) (place : Nat) : Part := c.parts.getD place default

/-- The atom at a place. -/
def atom? (c : Content) (place : Nat) : Option Atom :=
  match c.part place with
  | .atom a => some a
  | _ => none

/-- How many collections may be written out inside one another. -/
def deepest : Nat := 990

/-- A list of texts between two signs. -/
def enclosed (before after : Text) (ts : List Text) : Text :=
  before ++ Text.joinWith ", " ts ++ after

/-- The value at a place as a message shows it among others, where it is inside the values at some
places. -/
def coded? (c : Content) : Nat → List Nat → Nat → Except Fault Text
  | 0, _, _ => .error .tooDeep
  | fuel + 1, around, place =>
    let inner := coded? c fuel (place :: around)
    let isAgain := around.contains place
    match c.part place with
    | .atom a => if a.isWritable then .ok a.coded else .error .unwritable
    | .list items =>
      if isAgain then .ok "[...]" else (items.mapM inner).map (enclosed "[" "]")
    | .set [] => .ok "set()"
    | .set items => (items.mapM inner).map (enclosed "\x7b" "\x7d")
    | .mapping entries =>
      if isAgain then .ok "\x7b...\x7d"
      else do
        let ts ← entries.mapM fun e => do return (← inner e.1) ++ ": " ++ (← inner e.2)
        return enclosed "\x7b" "\x7d" ts
    | .pair a b =>
      if isAgain then .ok "(...)" else do return enclosed "(" ")" [← inner a, ← inner b]

/-- The value at a place as a message shows it alone. -/
def shown? (c : Content) (place : Nat) : Except Fault Text :=
  match c.part place with
  | .atom a => if a.isWritable then .ok a.shown else .error .unwritable
  | _ => c.coded? deepest [] place

/-- The first levels of the value at a place; collections below them are told as empty. -/
def unfold (c : Content) : Nat → Nat → Value
  | 0, place =>
    match c.part place with
    | .atom a => .atom a
    | .list _ => .list []
    | .set _ => .set []
    | .mapping _ => .mapping []
    | .pair _ _ => .list []
  | levels + 1, place =>
    let inner := unfold c levels
    match c.part place with
    | .atom a => .atom a
    | .list items => .list (items.map inner)
    | .set items => .set (items.map inner)
    | .mapping entries => .mapping (entries.map fun e => (inner e.1, inner e.2))
    | .pair a b => .list [inner a, inner b]

/-- The place of the value of a text key in the mapping at a place. -/
def find? (c : Content) (place : Nat) (key : Text) : Option Nat :=
  match c.part place with
  | .mapping entries =>
    (entries.find? fun e => c.atom? e.1 = some (.text key)).map (·.2)
  | _ => none

end Content

end MetaDesk.Yaml
