import MetaDesk.Bytes.Decoder
import MetaDesk.Yaml.Scalar

/-! # Tokens of a document

The scanner turns a document into tokens, one at a time.  Two things make it more than a list of
words.  Indentation opens and closes block collections, so the scanner keeps the columns of the
open ones.  And the first token of a line, or of an entry in brackets, may turn out to be a key
when a colon follows; its place is kept, and the marks for the key are put there afterwards. -/

namespace MetaDesk.Yaml

/-- The name of a tag: how its handle is written, if there is one, and the rest. -/
structure TagName where
  handle : Option Text
  rest : Text
deriving DecidableEq, Repr

/-- A token. -/
inductive Token where
  | version (major : Nat)
  | tagHandle (handle expansion : Text)
  | otherDirective
  | documentStart
  | documentEnd
  | sequenceStart
  | mappingStart
  | blockEnd
  | bracketOpen
  | bracketClose
  | braceOpen
  | braceClose
  | comma
  | entry
  | key
  | value
  | alias (name : Text)
  | anchor (name : Text)
  | tag (name : TagName)
  | scalar (said : Text) (plain : Bool)
  /-- Here the document cannot be scanned on. -/
  | broken (fault : Fault)
deriving DecidableEq, Repr

/-- A token that may turn out to be a key. -/
structure KeyPlace where
  /-- How many tokens come before it. -/
  tokens : Nat
  /-- It stands where a block mapping needs a key. -/
  required : Bool
  start : Cursor
deriving Repr

/-- The scanner between two tokens. -/
structure Scanner where
  place : Cursor
  /-- The tokens so far, the last one first. -/
  back : List Token := []
  /-- The column of the innermost block collection. -/
  indent : Int := -1
  /-- The columns of the block collections around it. -/
  outer : List Int := []
  /-- A key may stand here. -/
  mayKey : Bool := true
  /-- For each open bracket, the innermost first, and for the block around them: what may be a
  key. -/
  keys : List (Option KeyPlace) := [none]
deriving Repr

namespace Scanner

/-- The scanner is inside brackets. -/
def inFlow (s : Scanner) : Bool := 1 < s.keys.length

/-- What may be a key here. -/
def key? (s : Scanner) : Option KeyPlace := s.keys.head?.join

/-- Add a token. -/
def emit (t : Token) (s : Scanner) : Scanner := { s with back := t :: s.back }

/-- Put a token in where only `n` tokens come before it. -/
def insertAt (n : Nat) (t : Token) (s : Scanner) : Scanner :=
  let after := s.back.length - n
  { s with back := s.back.take after ++ t :: s.back.drop after }

/-- Go on by so many characters. -/
def forward (n : Nat) (s : Scanner) : Scanner := { s with place := s.place.forward n }

/-- Close the block collections that are indented further than `column`. -/
def unwind (column : Int) (s : Scanner) : Scanner :=
  if s.inFlow then s else close (s.outer.length + 1) s
where
  /-- Close so many collections at most. -/
  close : Nat → Scanner → Scanner
    | 0, s => s
    | fuel + 1, s =>
      if s.indent ≤ column then s
      else close fuel { s with
        back := .blockEnd :: s.back, indent := s.outer.headD (-1), outer := s.outer.tail }

/-- Forget what may be a key here. -/
def dropKey (s : Scanner) : Scan Scanner :=
  match s.key? with
  | none => .ok s
  | some k =>
    if k.required then stop s.place
    else .ok { s with keys := none :: s.keys.tail }

/-- A token that may be a key starts here. -/
def saveKey (s : Scanner) : Scan Scanner := do
  if !s.mayKey then return s
  let required := !s.inFlow && s.indent = s.place.column
  let s ← s.dropKey
  return { s with keys := some ⟨s.back.length, required, s.place⟩ :: s.keys.tail }

/-- A key ends on the line where it starts and has at most 1024 characters. -/
def isStale (c : Cursor) (k : KeyPlace) : Bool :=
  k.start.line != c.line || 1024 < c.index - k.start.index

/-- Forget everything that is too far back to be a key. -/
def dropStale (s : Scanner) : Scan Scanner :=
  let stale (k : Option KeyPlace) : Bool := k.any (isStale s.place)
  if s.keys.any fun k => stale k && k.any (·.required) then stop s.place
  else .ok { s with keys := s.keys.map fun k => if stale k then none else k }

/-- Open a block collection at a column, unless one is open there. -/
def openBlock (column : Nat) (n : Nat) (t : Token) (s : Scanner) : Scanner :=
  if s.indent < column then
    { s.insertAt n t with outer := s.indent :: s.outer, indent := column }
  else s

/-- The place of the next token: spaces and comments are passed over, and after a line break of a
block a key may follow. -/
def toToken : Nat → Scanner → Scanner
  | 0, s => s
  | fuel + 1, s =>
    let c := s.place.skipComment
    match c.rest with
    | [] => { s with place := c }
    | ch :: _ =>
      if isBreak ch then
        toToken fuel { s with place := c.lineBreak.2, mayKey := s.mayKey || !s.inFlow }
      else { s with place := c }

/-! ## Directives -/

/-- A character of a name. -/
def isNameChar (c : Char) : Bool := c.isAlphanum || c = '-' || c = '_'

/-- A character of the rest of a tag. -/
def isTagChar (c : Char) : Bool :=
  isNameChar c || (";/?:@&=+$,.!~*'()[]" : Text).contains c

/-- Bytes that are written as numbers. -/
def escapedBytes : Nat → Cursor → Scan (Bytes × Cursor)
  | 0, c => .ok ([], c)
  | fuel + 1, c =>
    if c.rest.head? != some '%' then .ok ([], c)
    else
      let digits := (c.step.rest.take 2).takeWhile fun d => (hexValue? d).isSome
      if digits.length < 2 then stop (c.step.sees digits.length)
      else do
        let more ← escapedBytes fuel (c.forward 3)
        return (UInt8.ofNat ((hexNumber? digits).getD 0) :: more.1, more.2)

/-- The rest of a tag, which may be empty. -/
def tagChars : Nat → Cursor → Scan Scanned
  | 0, c => .ok ([], c)
  | fuel + 1, c =>
    match c.rest with
    | [] => .ok ([], c)
    | '%' :: _ => do
      let bytes ← escapedBytes fuel c
      match Encoding.decode? .utf8 bytes.1 with
      | none => stop bytes.2
      | some said =>
        let more ← tagChars fuel bytes.2
        return (said ++ more.1, more.2)
    | ch :: _ =>
      if isTagChar ch then do
        let more ← tagChars fuel c.step
        return (ch :: more.1, more.2)
      else .ok ([], c)

/-- The rest of a tag. -/
def tagRest (c : Cursor) : Scan Scanned := do
  let found ← tagChars (c.rest.length + 1) c
  if found.2.index = c.index then stop c else return found

/-- A tag handle: an exclamation mark, or two of them with a name between. -/
def tagHandle (c : Cursor) : Scan Scanned :=
  if c.rest.head? != some '!' then stop c
  else if c.step.rest.head? = some ' ' then .ok (['!'], c.step)
  else
    let after := c.step.skip isNameChar
    if after.rest.head? != some '!' then stop after
    else .ok ('!' :: c.step.run isNameChar ++ ['!'], after.step)

/-- A number of a version. -/
def versionNumber (c : Cursor) : Scan (Nat × Cursor) :=
  let after := c.skip Char.isDigit
  if after.index = c.index then stop c
  else
    match Text.readNumeral (c.run Char.isDigit) with
    | .ok n => .ok (n, after)
    | .error e => stop after (.longInteger e)

/-- A directive after its percent sign. -/
def directive (c : Cursor) : Scan (Token × Cursor) := do
  let name := c.run isNameChar
  let c := c.skip isNameChar
  if name.isEmpty || !endsField c.rest then stop c
  if name = "YAML".toList then
    let major ← versionNumber c.skipSpaces
    if major.2.rest.head? != some '.' then stop major.2
    let minor ← versionNumber major.2.step
    if !endsField minor.2.rest then stop minor.2
    return (.version major.1, minor.2)
  else if name = "TAG".toList then
    let handle ← tagHandle c.skipSpaces
    if handle.2.rest.head? != some ' ' then stop handle.2
    let expansion ← tagRest handle.2.skipSpaces
    if !endsField expansion.2.rest then stop expansion.2
    return (.tagHandle handle.1 expansion.1, expansion.2)
  else return (.otherDirective, c.skip fun ch => !isBreak ch)

/-- Read a directive and the rest of its line. -/
def readDirective (s : Scanner) : Scan Scanner := do
  let s ← (s.unwind (-1)).dropKey
  let found ← directive s.place.step
  let c := found.2.skipComment
  if !endsLine c.rest then stop c
  return { s with place := c.lineBreak.2, mayKey := false }.emit found.1

/-! ## Marks -/

/-- A mark between documents. -/
def readDocumentMark (t : Token) (s : Scanner) : Scan Scanner := do
  let s ← (s.unwind (-1)).dropKey
  return ({ s with mayKey := false }.emit t).forward 3

/-- An opening bracket. -/
def readOpen (t : Token) (s : Scanner) : Scan Scanner := do
  let s ← s.saveKey
  return ({ s with mayKey := true, keys := none :: s.keys }.emit t).forward 1

/-- A closing bracket; one that closes nothing is a token as well, which fits nowhere. -/
def readClose (t : Token) (s : Scanner) : Scan Scanner := do
  let s ← s.dropKey
  let keys := if s.inFlow then s.keys.tail else s.keys
  return ({ s with mayKey := false, keys := keys }.emit t).forward 1

/-- A comma between entries. -/
def readComma (s : Scanner) : Scan Scanner := do
  let s ← s.dropKey
  return ({ s with mayKey := true }.emit .comma).forward 1

/-- A dash before an entry. -/
def readEntry (s : Scanner) : Scan Scanner := do
  if !s.inFlow && !s.mayKey then stop s.place
  let s := if s.inFlow then s else s.openBlock s.place.column s.back.length .sequenceStart
  let s ← s.dropKey
  return ({ s with mayKey := true }.emit .entry).forward 1

/-- A question mark before a key. -/
def readKey (s : Scanner) : Scan Scanner := do
  if !s.inFlow && !s.mayKey then stop s.place
  let s := if s.inFlow then s else s.openBlock s.place.column s.back.length .mappingStart
  let s ← s.dropKey
  return ({ s with mayKey := !s.inFlow }.emit .key).forward 1

/-- A colon before a value: what may be a key is one now. -/
def readValue (s : Scanner) : Scan Scanner := do
  match s.key? with
  | some k =>
    let s := { s with keys := none :: s.keys.tail }
    let s := s.insertAt k.tokens .key
    let s := if s.inFlow then s else s.openBlock k.start.column k.tokens .mappingStart
    return ({ s with mayKey := false }.emit .value).forward 1
  | none =>
    if !s.inFlow && !s.mayKey then stop s.place
    let s := if s.inFlow then s else s.openBlock s.place.column s.back.length .mappingStart
    return ({ s with mayKey := !s.inFlow }.emit .value).forward 1

/-! ## Names and scalars -/

/-- A character that may follow the name of an anchor. -/
def endsAnchor (t : Text) : Bool :=
  endsWord t || t.head?.any fun c => ("?:,]\x7d%@" : Text).contains c || c.toNat == 0x60

/-- The name of an anchor or an alias. -/
def readAnchor (make : Text → Token) (s : Scanner) : Scan Scanner := do
  let s ← s.saveKey
  let start := s.place.step
  let after := start.skip isNameChar
  if after.index = start.index || !endsAnchor after.rest then stop after
  return { s with mayKey := false, place := after }.emit (make (start.run isNameChar))

/-- A tag from its exclamation mark on. -/
def tagName (c : Cursor) : Scan (TagName × Cursor) := do
  let next := c.step
  if next.rest.head? = some '<' then
    let name ← tagRest next.step
    if name.2.rest.head? != some '>' then stop name.2
    return (⟨none, name.1⟩, name.2.step)
  else if endsWord next.rest then return (⟨none, ['!']⟩, next)
  else
    let word := next.run fun ch => !(ch = ' ' || isBreak ch)
    let c := c.sees (1 + (word.takeWhile (· != '!')).length)
    let handle ← if word.contains '!' then tagHandle c else pure (['!'], c.step)
    let name ← tagRest handle.2
    return (⟨some handle.1, name.1⟩, name.2)

/-- Read a tag. -/
def readTag (s : Scanner) : Scan Scanner := do
  let s ← s.saveKey
  let found ← tagName s.place
  if !endsField found.2.rest then stop found.2
  return { s with mayKey := false, place := found.2 }.emit (.tag found.1)

/-- Read a block scalar. -/
def readBlock (s : Scanner) : Scan Scanner := do
  let s ← s.dropKey
  let found ← blockScalar s.indent s.place
  return { s with mayKey := true, place := found.2 }.emit (.scalar found.1 false)

/-- Read a scalar between quotes. -/
def readQuoted (s : Scanner) : Scan Scanner := do
  let s ← s.saveKey
  let found ← quotedScalar s.place
  return { s with mayKey := false, place := found.2 }.emit (.scalar found.1 false)

/-- Read a plain scalar. -/
def readPlain (s : Scanner) : Scan Scanner := do
  let s ← s.saveKey
  let found := plainScalar s.inFlow (s.indent + 1) s.place
  return { s with mayKey := found.broke, place := found.after }.emit (.scalar found.said true)

/-- A plain scalar may start with this character before that text. -/
def startsPlain (inFlow : Bool) (c : Char) (rest : Text) : Bool :=
  if c = '-' then !endsWord rest
  else if c = '?' || c = ':' then !inFlow && !endsWord rest
  else !(c = ' ' || c = '\t' || isBreak c || isFlowMark c || c.toNat == 0x60
    || ("#&*!|>'\"%@" : Text).contains c)

/-- A look at what follows the first character of a token, where the character alone does not tell
what the token is. -/
def seesStart (s : Scanner) (ch : Char) : Scanner :=
  let c := s.place
  let c := if c.column = 0 && (ch = '-' || ch = '.') then c.seesSeparator else c
  let isDoubtful := ch = '-' || ch = '@' || ch = '\t' || ch.toNat == 0x60
    || ((ch = '?' || ch = ':') && !s.inFlow) || ((ch = '|' || ch = '>') && s.inFlow)
    || (ch = '%' && c.column != 0)
  { s with place := if isDoubtful then c.sees 1 else c }

/-- Read the token here, which is not the end of the document. -/
def readToken (s : Scanner) (ch : Char) (rest : Text) : Scan Scanner :=
  let lineStart := s.place.column = 0
  if ch = '%' && lineStart then s.readDirective
  else if lineStart && startsMark '-' s.place.rest then s.readDocumentMark .documentStart
  else if lineStart && startsMark '.' s.place.rest then s.readDocumentMark .documentEnd
  else if ch = '[' then s.readOpen .bracketOpen
  else if ch = '\x7b' then s.readOpen .braceOpen
  else if ch = ']' then s.readClose .bracketClose
  else if ch = '\x7d' then s.readClose .braceClose
  else if ch = ',' then s.readComma
  else if ch = '-' && endsWord rest then s.readEntry
  else if ch = '?' && (s.inFlow || endsWord rest) then s.readKey
  else if ch = ':' && (s.inFlow || endsWord rest) then s.readValue
  else if ch = '*' then s.readAnchor .alias
  else if ch = '&' then s.readAnchor .anchor
  else if ch = '!' then s.readTag
  else if (ch = '|' || ch = '>') && !s.inFlow then s.readBlock
  else if ch = '\'' || ch = '"' then s.readQuoted
  else if startsPlain s.inFlow ch rest then s.readPlain
  else stop s.place

/-- How many tokens come before the first that may turn out to be a key, or before the next one. -/
def settled (s : Scanner) : Nat :=
  (s.keys.filterMap id).foldl (fun n k => min n k.tokens) s.back.length

/-- The first `n` tokens, where the document cannot be scanned on. -/
def brokenAfter (n : Nat) (fault : Fault) (s : Scanner) : List Token :=
  s.back.reverse.take n ++ [.broken fault]

/-- Read the next token, and tell whether the document ends here. -/
def next (s : Scanner) : Scan (Scanner × Bool) := do
  let s ← (s.toToken (s.place.rest.length + 1)).dropStale
  let s := s.unwind s.place.column
  match s.place.rest with
  | [] => return (← (s.unwind (-1)).dropKey, true)
  | ch :: rest => return (← (s.seesStart ch).readToken ch rest, false)

/-- Read the next token, unless that needs a look beyond a limit, where no character can be had. -/
def nextWithin (limit : Option Nat) (s : Scanner) : Except Fault (Scanner × Bool) :=
  let isBeyond (reach : Nat) : Bool := limit.any (· ≤ reach)
  match s.next with
  | .error e => .error (if isBeyond e.reach then .malformed .characters else e.fault)
  | .ok found =>
    if isBeyond found.1.place.seen then .error (.malformed .characters) else .ok found

/-- All tokens from here on.  A token is told when it is clear whether it is a key, so a fault on
the way there comes before it; the tokens before the `told`-th were told already. -/
def readAll (limit : Option Nat) : Nat → Nat → Scanner → List Token
  | 0, _, s => s.back.reverse
  | fuel + 1, told, s =>
    match s.dropStale with
    | .error e => s.brokenAfter told e.fault
    | .ok s =>
      match s.nextWithin limit with
      | .error e => s.brokenAfter s.settled e
      | .ok (after, true) => after.back.reverse
      | .ok (after, false) => readAll limit fuel s.settled after

end Scanner

/-- A character that may stand in a document. -/
def isAllowed (c : Char) : Bool :=
  let n := c.toNat
  n == 0x09 || n == 0x0A || n == 0x0D || (0x20 ≤ n && n ≤ 0x7E) || n == 0x85
    || (0xA0 ≤ n && n ≤ 0xFFFD) || 0x10000 ≤ n

/-- How a document is had. -/
inductive Delivery where
  /-- All of it is there from the start. -/
  | whole
  /-- It comes in pieces, which are taken when they are needed. -/
  | pieces
deriving DecidableEq, Repr

/-- How many characters a piece has. -/
def Delivery.pieceSize : Nat := 4096

/-- The first character of the piece that the character with an index comes with; two pieces are
taken at the start. -/
def Delivery.pieceStart (d : Delivery) (index : Nat) : Nat :=
  match d with
  | .whole => 0
  | .pieces => if index < 2 * pieceSize then 0 else index / pieceSize * pieceSize

/-- Where the first piece starts that holds a character which may not stand in a document. -/
def limitOf (d : Delivery) (t : Text) : Option Nat :=
  let before := (t.takeWhile isAllowed).length
  if before < t.length then some (d.pieceStart before) else none

/-- The tokens of a document. -/
def tokens (d : Delivery) (t : Text) : List Token :=
  let limit := limitOf d t
  if limit = some 0 then [.broken (.malformed .characters)]
  else
    let start : Cursor := { rest := t }
    let start := if t.head? = some Text.byteOrderMark then start.step else start
    Scanner.readAll limit (t.length + 1) 0 { place := start }

end MetaDesk.Yaml
