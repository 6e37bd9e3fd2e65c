import MetaDesk.Keyed
import MetaDesk.Yaml.Tag
import MetaDesk.Yaml.Token

/-! # The nodes of a document

Tokens form scalars, sequences and mappings, each with its tag.  The nodes of a document stand in
a table, and a collection names its parts by their places there: an alias names the place of the
node that was anchored under its name, which may be the one that the alias is in. -/

namespace MetaDesk.Yaml

/-- A node. -/
inductive Node where
  | scalar (tag : Tag) (said : Text)
  | sequence (tag : Tag) (items : List Nat)
  | mapping (tag : Tag) (entries : List (Nat × Nat))
deriving DecidableEq, Inhabited, Repr

namespace Node

/-- The tag of a node. -/
def tag : Node → Tag
  | .scalar t _ => t
  | .sequence t _ => t
  | .mapping t _ => t

/-- The node with another tag. -/
def withTag (t : Tag) : Node → Node
  | .scalar _ said => .scalar t said
  | .sequence _ items => .sequence t items
  | .mapping _ entries => .mapping t entries

/-- What is known while tokens are read. -/
structure Reading where
  tokens : List Token
  nodes : Array Node := #[]
  anchors : Keyed Text Nat := []
  /-- What the handles of tags stand for. -/
  handles : Keyed Text Text := [(['!'], ['!']), (['!', '!'], Tag.domain)]

/-- Reading tokens. -/
abbrev Reader := StateT Reading (Except Fault)

/-- The next token, if there is one. -/
def peek : Reader (Option Token) := do
  match (← get).tokens with
  | .broken e :: _ => throw e
  | t :: _ => return some t
  | [] => return none

/-- Pass over a token. -/
def advance : Reader Unit := modify fun s => { s with tokens := s.tokens.drop 1 }

/-- The next token is one of these. -/
def sees (ts : List Token) : Reader Bool := do
  return (← peek).any ts.contains

/-- Put a node at the end of the table. -/
def add (n : Node) : Reader Nat :=
  modifyGet fun s => (s.nodes.size, { s with nodes := s.nodes.push n })

/-- A node that is not written at all. -/
def absent : Reader Nat := add (.scalar .null [])

/-- The anchor and the tag before a node, in any order. -/
def properties : Reader (Option Text × Option TagName) := do
  match ← peek with
  | some (.anchor name) =>
    advance
    match ← peek with
    | some (.tag t) => advance; return (some name, some t)
    | _ => return (some name, none)
  | some (.tag t) =>
    advance
    match ← peek with
    | some (.anchor name) => advance; return (some name, some t)
    | _ => return (none, some t)
  | _ => return (none, none)

/-- The full name of a tag; a lone exclamation mark counts as no tag of a collection, and as plain
writing of a scalar. -/
def fullName : Option TagName → Reader (Option Text)
  | none => return none
  | some ⟨none, rest⟩ => return some rest
  | some ⟨some handle, rest⟩ => do
    match (← get).handles.get? handle with
    | some expansion => return some (expansion ++ rest)
    | none => throw (.malformed .grammar)

/-- The tag of a collection. -/
def collectionTag (usual : Tag) : Option Text → Tag
  | none => usual
  | some name => if name = ['!'] then usual else .ofName name

/-- The tag of a scalar. -/
def scalarTag (said : Text) (plain : Bool) : Option Text → Tag
  | none => if plain then .ofPlain said else .text
  | some name => if name = ['!'] then .ofPlain said else .ofName name

/-- Put a node at the end of the table, under the name of its anchor, if there is one.  There is
one node of a name. -/
def anchored (anchor : Option Text) (n : Node) : Reader Nat := do
  match anchor with
  | none => add n
  | some name =>
    if ((← get).anchors.get? name).isSome then throw (.malformed .names)
    let place ← add n
    modify fun s => { s with anchors := s.anchors.put name place }
    return place

/-- A collection, which has its place before its parts. -/
def collected {α : Type} (anchor : Option Text) (make : List α → Node) (read : Reader (List α)) :
    Reader Nat := do
  let place ← anchored anchor (make [])
  let parts ← read
  modify fun s => { s with nodes := s.nodes.setIfInBounds place (make parts) }
  return place

/-- How many collections may stand inside one another. -/
def deepest : Nat := 488

mutual

/-- A node inside so many collections; a block collection only if `block`, and entries without
indentation of their own only if `indentless`. -/
def read : Nat → Nat → Bool → Bool → Reader Nat
  | 0, _, _, _ => throw (.malformed .grammar)
  | fuel + 1, depth, block, indentless => do
    if deepest < depth then throw .tooDeep
    match ← peek with
    | some (.alias name) =>
      match (← get).anchors.get? name with
      | some place => advance; return place
      | none => throw (.malformed .names)
    | _ =>
      let (anchor, tagName) ← properties
      let name ← fullName tagName
      let items (read : Reader (List Nat)) : Reader Nat :=
        collected anchor (.sequence (collectionTag .sequence name)) read
      let entries (read : Reader (List (Nat × Nat))) : Reader Nat :=
        collected anchor (.mapping (collectionTag .mapping name)) read
      let scalar (said : Text) (plain : Bool) : Reader Nat :=
        anchored anchor (.scalar (scalarTag said plain name) said)
      let empty : Reader Nat :=
        if anchor.isSome || name.isSome then scalar [] true else throw (.malformed .grammar)
      let inner := depth + 1
      match ← peek with
      | some .entry => if indentless then items (readIndentless fuel inner) else empty
      | some (.scalar said plain) => advance; scalar said plain
      | some .bracketOpen => advance; items (readBracket fuel inner true)
      | some .braceOpen => advance; entries (readBrace fuel inner true)
      | some .sequenceStart =>
        if block then do advance; items (readBlockItems fuel inner) else empty
      | some .mappingStart =>
        if block then do advance; entries (readBlockEntries fuel inner) else empty
      | _ => empty

/-- A node, or nothing before one of some tokens. -/
def readUnless : Nat → Nat → List Token → Bool → Bool → Reader Nat
  | 0, _, _, _, _ => throw (.malformed .grammar)
  | fuel + 1, depth, ends, block, indentless => do
    if ← sees ends then absent else read fuel depth block indentless

/-- The items of a block sequence. -/
def readBlockItems : Nat → Nat → Reader (List Nat)
  | 0, _ => throw (.malformed .grammar)
  | fuel + 1, depth => do
    match ← peek with
    | some .entry =>
      advance
      let n ← readUnless fuel depth [.entry, .blockEnd] true false
      return n :: (← readBlockItems fuel depth)
    | some .blockEnd => advance; return []
    | _ => throw (.malformed .grammar)

/-- The items of a sequence that is as far indented as the mapping around it. -/
def readIndentless : Nat → Nat → Reader (List Nat)
  | 0, _ => throw (.malformed .grammar)
  | fuel + 1, depth => do
    if ← sees [.entry] then
      advance
      let n ← readUnless fuel depth [.entry, .key, .value, .blockEnd] true false
      return n :: (← readIndentless fuel depth)
    else return []

/-- The entries of a block mapping. -/
def readBlockEntries : Nat → Nat → Reader (List (Nat × Nat))
  | 0, _ => throw (.malformed .grammar)
  | fuel + 1, depth => do
    match ← peek with
    | some .key =>
      advance
      let k ← readUnless fuel depth [.key, .value, .blockEnd] true true
      let v ← readValue fuel depth [.key, .value, .blockEnd] true
      return (k, v) :: (← readBlockEntries fuel depth)
    | some .blockEnd => advance; return []
    | _ => throw (.malformed .grammar)

/-- What follows a key: nothing, or a value before one of some tokens. -/
def readValue : Nat → Nat → List Token → Bool → Reader Nat
  | 0, _, _, _ => throw (.malformed .grammar)
  | fuel + 1, depth, ends, block => do
    if ← sees [.value] then
      advance
      readUnless fuel depth ends block block
    else absent

/-- The items in brackets; one with a colon is a mapping of one entry. -/
def readBracket : Nat → Nat → Bool → Reader (List Nat)
  | 0, _, _ => throw (.malformed .grammar)
  | fuel + 1, depth, first => do
    if ← sees [.bracketClose] then
      advance
      return []
    if !first then
      if !(← sees [.comma]) then throw (.malformed .grammar)
      advance
    if ← sees [.bracketClose] then
      advance
      return []
    if ← sees [.key] then
      advance
      let k ← readUnless fuel depth [.value, .comma, .bracketClose] false false
      let v ← readValue fuel depth [.comma, .bracketClose] false
      let pair ← add (.mapping .mapping [(k, v)])
      return pair :: (← readBracket fuel depth false)
    let n ← read fuel depth false false
    return n :: (← readBracket fuel depth false)

/-- The entries in braces; one without a colon has no value. -/
def readBrace : Nat → Nat → Bool → Reader (List (Nat × Nat))
  | 0, _, _ => throw (.malformed .grammar)
  | fuel + 1, depth, first => do
    if ← sees [.braceClose] then
      advance
      return []
    if !first then
      if !(← sees [.comma]) then throw (.malformed .grammar)
      advance
    if ← sees [.braceClose] then
      advance
      return []
    if ← sees [.key] then
      advance
      let k ← readUnless fuel depth [.value, .comma, .braceClose] false false
      let v ← readValue fuel depth [.comma, .braceClose] false
      return (k, v) :: (← readBrace fuel depth false)
    let n ← read fuel depth false false
    let v ← absent
    return (n, v) :: (← readBrace fuel depth false)

end

/-- Directives before a document: one version at most, of which only the first number is looked at,
and one meaning of a handle. -/
def directives : Nat → Bool → List Text → Reader Unit
  | 0, _, _ => throw (.malformed .grammar)
  | fuel + 1, hasVersion, handles => do
    match ← peek with
    | some (.version major) =>
      if hasVersion || major != 1 then throw (.malformed .grammar)
      advance
      directives fuel true handles
    | some (.tagHandle handle expansion) =>
      if handles.contains handle then throw (.malformed .grammar)
      modify fun s => { s with handles := s.handles.put handle expansion }
      advance
      directives fuel hasVersion (handle :: handles)
    | some .otherDirective => advance; directives fuel hasVersion handles
    | some .documentStart => advance
    | _ => throw (.malformed .grammar)

/-- Pass over the ends of documents. -/
def passEnds : Nat → Reader Unit
  | 0 => return
  | fuel + 1 => do
    if ← sees [.documentEnd] then
      advance
      passEnds fuel

/-- A document opens with directives or its own mark. -/
def opensExplicitly : Token → Bool
  | .version _ => true
  | .tagHandle _ _ => true
  | .otherDirective => true
  | .documentStart => true
  | _ => false

/-- The only document among the tokens, if there is one: the place of its outermost node. -/
def readDocument : Reader (Option Nat) := do
  let fuel := 4 * (← get).tokens.length + 8
  match ← peek with
  | none => return none
  | some t =>
    let n ← if opensExplicitly t then do
        directives fuel false []
        match ← peek with
        | none => absent
        | some next =>
          if opensExplicitly next || next == .documentEnd then absent else read fuel 0 true false
      else read fuel 0 true false
    passEnds fuel
    match ← peek with
    | none => return some n
    | some _ =>
      directives fuel false []
      throw (.malformed .names)

/-- The nodes of a document and the place of the outermost one; there is none when nothing is
written. -/
def ofText (d : Delivery) (t : Text) : Except Fault (Option (Array Node × Nat)) := do
  let found ← readDocument.run { tokens := tokens d t }
  return found.1.map fun place => (found.2.nodes, place)

end Node

end MetaDesk.Yaml
