import MetaDesk.Yaml.Atom.Reader
import MetaDesk.Yaml.Content
import MetaDesk.Yaml.Node

/-! # Building the content of a document

Each node stands for one part of the content, which is made when it is first asked for.  A
collection is made empty and filled later, in the order in which the collections were made, so
that of several faults the one in the fewest collections shows. -/

namespace MetaDesk.Yaml

/-- What is known while content is built. -/
structure Building where
  nodes : Array Node
  parts : Array Part := #[]
  /-- The places of the parts that were made, by the places of their nodes. -/
  made : Array (Option Nat)
  /-- Nodes of collections, in the order in which they were made. -/
  waiting : Array Nat := #[]

/-- Building content. -/
abbrev Builder := StateT Building (Except Fault)

namespace Building

/-- The content has a node that is not what its tag says. -/
def misfit {α : Type} : Builder α := throw (.malformed .tags)

/-- The node at a place. -/
def nodeAt (place : Nat) : Builder Node := return (← get).nodes.getD place default

/-- Change the node at a place. -/
def setNode (place : Nat) (n : Node) : Builder Unit :=
  modify fun b => { b with nodes := b.nodes.setIfInBounds place n }

/-- The part at a place. -/
def partAt (place : Nat) : Builder Part := return (← get).parts.getD place default

/-- Change the part at a place. -/
def setPart (place : Nat) (p : Part) : Builder Unit :=
  modify fun b => { b with parts := b.parts.setIfInBounds place p }

/-- Put a part at the end of the table. -/
def addPart (p : Part) : Builder Nat :=
  modifyGet fun b => (b.parts.size, { b with parts := b.parts.push p })

/-- The key of an entry has a tag. -/
def hasKey (t : Tag) (e : Nat × Nat) : Builder Bool := return (← nodeAt e.1).tag = t

/-! ## Making parts -/

/-- The text of a node; a mapping has the one of its default entry. -/
def said : Nat → Nat → Builder Text
  | 0, _ => throw .tooDeep
  | fuel + 1, place => do
    match ← nodeAt place with
    | .scalar _ t => return t
    | .sequence _ _ => misfit
    | .mapping _ entries =>
      match ← entries.findM? (hasKey .default) with
      | some e => said fuel e.2
      | none => misfit

/-- The part of a node that is made now. -/
def fresh (place : Nat) : Builder Nat := do
  let collection (p : Part) : Builder Nat := do
    modify fun b => { b with waiting := b.waiting.push place }
    addPart p
  let node ← nodeAt place
  match node.tag with
  | .sequence => collection (.list [])
  | .ordered => collection (.list [])
  | .pairs => collection (.list [])
  | .set => collection (.set [])
  | .mapping => collection (.mapping [])
  | .merge => misfit
  | .default => misfit
  | .other => misfit
  | t =>
    let text ← said ((← get).nodes.size + 1) place
    match t, node with
    | .timestamp, .scalar _ _ => pure ()
    | .timestamp, _ => throw .mappedDate
    | _, _ => pure ()
    addPart (.atom (← atomOf t text))

/-- The part of a node. -/
def make (place : Nat) : Builder Nat := do
  match (← get).made.getD place none with
  | some p => return p
  | none =>
    let p ← fresh place
    modify fun b => { b with made := b.made.setIfInBounds place (some p) }
    return p

/-! ## Entries that are taken over -/

/-- The entries of a mapping. -/
def entriesAt (place : Nat) : Builder (List (Nat × Nat)) := do
  match ← nodeAt place with
  | .mapping _ entries => return entries
  | _ => return []

/-- Change the entries of a mapping. -/
def setEntries (place : Nat) (entries : List (Nat × Nat)) : Builder Unit := do
  match ← nodeAt place with
  | .mapping t _ => setNode place (.mapping t entries)
  | _ => return

/-- A default key is a text as the key of an entry. -/
def plainKey (e : Nat × Nat) : Builder Unit := do
  if ← hasKey .default e then setNode e.1 ((← nodeAt e.1).withTag .text)

/-- How many entries come before the first that is taken over, from the `n`-th on; their default
keys become texts. -/
def seekMerge : Nat → List (Nat × Nat) → Builder (Option Nat)
  | _, [] => return none
  | n, e :: rest => do
    if ← hasKey .merge e then return some n
    plainKey e
    seekMerge (n + 1) rest

mutual

/-- Put the entries that a mapping takes over before its own. -/
def flatten : Nat → Nat → Builder Unit
  | 0, _ => return
  | fuel + 1, place => do
    let taken ← gather fuel place 0
    if !taken.isEmpty then setEntries place (taken ++ (← entriesAt place))

/-- The entries that a mapping takes over from its `n`-th entry on; those that say so go. -/
def gather : Nat → Nat → Nat → Builder (List (Nat × Nat))
  | 0, _, _ => return []
  | fuel + 1, place, n => do
    let entries ← entriesAt place
    match ← seekMerge n (entries.drop n) with
    | none => return []
    | some i =>
      let source := (entries.getD i default).2
      setEntries place (entries.eraseIdx i)
      let taken ← sources fuel source
      return taken ++ (← gather fuel place i)

/-- The entries of a mapping, or of several of which earlier ones win. -/
def sources : Nat → Nat → Builder (List (Nat × Nat))
  | 0, _ => return []
  | fuel + 1, place => do
    match ← nodeAt place with
    | .mapping _ _ =>
      flatten fuel place
      entriesAt place
    | .sequence _ items => return (← sourcesAll fuel items).reverse.flatten
    | .scalar _ _ => misfit

/-- The entries of several mappings. -/
def sourcesAll : Nat → List Nat → Builder (List (List (Nat × Nat)))
  | 0, _ => return []
  | _, [] => return []
  | fuel + 1, place :: rest => do
    match ← nodeAt place with
    | .mapping _ _ =>
      flatten fuel place
      let entries ← entriesAt place
      return entries :: (← sourcesAll fuel rest)
    | _ => misfit

end

/-- Enough steps for all entries of a document to be taken over. -/
def mergeFuel (nodes : Array Node) : Nat :=
  nodes.foldl (fun n node => n + match node with
    | .scalar _ _ => 0
    | .sequence _ items => 3 * items.length
    | .mapping _ entries => 3 * entries.length) 3

/-! ## Filling collections -/

/-- Two parts are the same key. -/
def sameKey (parts : Array Part) (p q : Nat) : Bool :=
  p = q || match parts.getD p default, parts.getD q default with
    | .atom a, .atom b => a.same b
    | _, _ => false

/-- Set the value of a key, which keeps its place. -/
def putEntry (parts : Array Part) : List (Nat × Nat) → Nat × Nat → List (Nat × Nat)
  | [], e => [e]
  | e' :: es, e =>
    if sameKey parts e'.1 e.1 then (e'.1, e.2) :: es else e' :: putEntry parts es e

/-- The parts of an entry; a collection is no key. -/
def makeEntry (e : Nat × Nat) : Builder (Nat × Nat) := do
  let key ← make e.1
  match ← partAt key with
  | .atom _ => return (key, ← make e.2)
  | _ => misfit

/-- The entries of a mapping, after those that it takes over. -/
def makeEntries (place : Nat) : Builder (List (Nat × Nat)) := do
  match ← nodeAt place with
  | .mapping _ _ =>
    flatten (mergeFuel (← get).nodes) place
    let entries ← (← entriesAt place).mapM makeEntry
    let parts := (← get).parts
    return entries.foldl (putEntry parts) []
  | _ => misfit

/-- The pair that a mapping of one entry stands for. -/
def makePair (place : Nat) : Builder Nat := do
  match ← nodeAt place with
  | .mapping _ [e] =>
    let first ← make e.1
    let second ← make e.2
    addPart (.pair first second)
  | _ => misfit

/-- The items of a sequence. -/
def itemsAt (place : Nat) : Builder (List Nat) := do
  match ← nodeAt place with
  | .sequence _ items => return items
  | _ => misfit

/-- The members of a set, in the order in which it tells them. -/
def members (parts : Array Part) (keys : List Nat) : List Nat :=
  let hashOf (key : Nat) : Option (Nat × Nat) :=
    match parts.getD key default with
    | .atom a => (SetOrder.hash? a).map fun h => (key, h)
    | _ => none
  match keys.mapM hashOf with
  | some hashed => SetOrder.ordered hashed
  | none => keys

/-- Fill the collection that a node stands for. -/
def fill (place : Nat) : Builder Unit := do
  let part ← make place
  match (← nodeAt place).tag with
  | .sequence => setPart part (.list (← (← itemsAt place).mapM make))
  | .ordered => setPart part (.list (← (← itemsAt place).mapM makePair))
  | .pairs => setPart part (.list (← (← itemsAt place).mapM makePair))
  | .mapping => setPart part (.mapping (← makeEntries place))
  | .set =>
    let keys := (← makeEntries place).map (·.1)
    setPart part (.set (members (← get).parts keys))
  | _ => return

/-- Fill the collections that were made, from the `n`-th on. -/
def fillAll : Nat → Nat → Builder Unit
  | 0, _ => return
  | fuel + 1, n => do
    match (← get).waiting[n]? with
    | some place =>
      fill place
      fillAll fuel (n + 1)
    | none => return

/-- Build the content of the node at a place. -/
def all (place : Nat) : Builder Nat := do
  let outermost ← make place
  fillAll ((← get).nodes.size + 1) 0
  return outermost

end Building

/-- The content of a document; one that says nothing has nothing in it. -/
def load (d : Delivery) (t : Text) : Except Fault Content := do
  match ← Node.ofText d t with
  | none => return ⟨#[.atom .null], 0⟩
  | some (nodes, place) =>
    let built ← (Building.all place).run
      { nodes := nodes, made := Array.replicate nodes.size none }
    return ⟨built.2.parts, built.1⟩

end MetaDesk.Yaml
