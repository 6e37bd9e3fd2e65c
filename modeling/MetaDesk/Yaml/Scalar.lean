import MetaDesk.Yaml.Cursor
import MetaDesk.Yaml.Fault

/-! # Scalars

A scalar is written between quotes, plainly, or as a block of lines.  In the first two a line break
folds to a space, and further ones stay; a block keeps its breaks or folds them, and its header
tells what becomes of those at the end. -/

namespace MetaDesk.Yaml

/-- A fault, and how far the document had to be looked at to see it. -/
structure Stop where
  fault : Fault
  reach : Nat
deriving DecidableEq, Repr

/-- A step through a document that may be stopped. -/
abbrev Scan := Except Stop

/-- Stop at a place. -/
def stop {α : Type} (c : Cursor) (fault : Fault := .malformed .tokens) : Scan α :=
  .error ⟨fault, c.seen⟩

/-- What a scalar says, and the place after it. -/
abbrev Scanned := Text × Cursor

/-- How a folded line break reads: the breaks after it, or a space when there are none; a break
that is no line feed stays. -/
def folded (first breaks : Text) : Text :=
  if first != ['\n'] then first ++ breaks else if breaks.isEmpty then [' '] else breaks

/-! ## Between quotes -/

/-- What a single character after a backslash stands for. -/
def escapes : List (Char × Char) :=
  [('0', '\x00'), ('a', '\x07'), ('b', '\x08'), ('t', '\t'), ('\t', '\t'), ('n', '\n'),
   ('v', '\x0B'), ('f', '\x0C'), ('r', '\r'), ('e', '\x1B'), (' ', ' '), ('"', '"'), ('\\', '\\'),
   ('/', '/'), ('N', '\u0085'), ('_', '\u00A0'), ('L', '\u2028'), ('P', '\u2029')]

/-- How many hexadecimal digits follow a character after a backslash. -/
def codeSizes : List (Char × Nat) := [('x', 2), ('u', 4), ('U', 8)]

/-- The value of a hexadecimal digit. -/
def hexValue? (c : Char) : Option Nat :=
  if c.isDigit then some (c.toNat - 0x30)
  else if 'a' ≤ c && c ≤ 'f' then some (c.toNat - 0x57)
  else if 'A' ≤ c && c ≤ 'F' then some (c.toNat - 0x37)
  else none

/-- The number that hexadecimal digits write. -/
def hexNumber? (t : Text) : Option Nat :=
  t.foldl (fun n c => do return 16 * (← n) + (← hexValue? c)) (some 0)

/-- Lines that hold nothing but blanks, up to the next one that does. -/
def quotedBreaks : Nat → Cursor → Scan Scanned
  | 0, c => .ok ([], c)
  | fuel + 1, c =>
    let c := c.seesSeparator
    if startsSeparator c.rest then stop c
    else
      let c := c.skip fun ch => ch = ' ' || ch = '\t'
      if !c.rest.isEmpty && endsLine c.rest then do
        let more ← quotedBreaks fuel c.lineBreak.2
        return (c.lineBreak.1 ++ more.1, more.2)
      else .ok ([], c)

/-- What follows a backslash.  The codes of surrogates are those of no characters, and no token can be
read where one is written. -/
def escape (fuel : Nat) (c : Cursor) : Scan Scanned :=
  match c.rest with
  | [] => stop c
  | ch :: rest =>
    match escapes.lookup ch with
    | some meant => .ok ([meant], c.step)
    | none =>
      match codeSizes.lookup ch with
      | some size =>
        let digits := (rest.take size).takeWhile fun d => (hexValue? d).isSome
        if digits.length < size then stop (c.step.sees digits.length)
        else
          let n := (hexNumber? digits).getD 0
          let last := c.step.sees (size - 1)
          if 0x7FFFFFFF < n then stop last .vast
          else if 0x10FFFF < n then stop last .badCharacter
          else if ¬ n.isValidChar then stop last
          else .ok ([Char.ofNat n], c.forward (size + 1))
      | none => if isBreak ch then quotedBreaks fuel c.lineBreak.2 else stop c

/-- Blanks inside quotes: they stay within a line and fold around a line break. -/
def quotedBlanks (fuel : Nat) (c : Cursor) : Scan Scanned :=
  let isGap (ch : Char) : Bool := ch = ' ' || ch = '\t'
  let after := c.skip isGap
  if after.rest.isEmpty then stop after
  else if endsLine after.rest then do
    let more ← quotedBreaks fuel after.lineBreak.2
    return (folded after.lineBreak.1 more.1, more.2)
  else .ok (c.run isGap, after)

/-- A character that means itself inside any quotes. -/
def isQuotedPlain (c : Char) : Bool :=
  !(c = '\'' || c = '"' || c = '\\' || c = ' ' || c = '\t' || isBreak c)

/-- What stands between quotes, up to and with the closing one. -/
def quotedRest (double : Bool) : Nat → Cursor → Scan Scanned
  | 0, c => stop c
  | fuel + 1, c =>
    let more (said : Text) (c : Cursor) : Scan Scanned := do
      let rest ← quotedRest double fuel c
      return (said ++ rest.1, rest.2)
    match c.rest with
    | [] => stop c
    | '\'' :: rest =>
      if double then more ['\''] c.step
      else if rest.head? = some '\'' then more ['\''] (c.forward 2)
      else .ok ([], c.step)
    | '"' :: _ => if double then .ok ([], c.step) else more ['"'] c.step
    | '\\' :: _ =>
      if double then do
        let meant ← escape fuel c.step
        more meant.1 meant.2
      else more ['\\'] c.step
    | ch :: _ =>
      if isQuotedPlain ch then more (c.run isQuotedPlain) (c.skip isQuotedPlain)
      else do
        let gap ← quotedBlanks fuel c
        more gap.1 gap.2

/-- A scalar between quotes, from its opening quote on. -/
def quotedScalar (c : Cursor) : Scan Scanned :=
  quotedRest (c.rest.head? = some '"') (c.rest.length + 1) c.step

/-! ## Plain -/

/-- A character that separates the entries of a collection in brackets. -/
def isFlowMark (c : Char) : Bool := c = ',' || c = '[' || c = ']' || c = '\x7b' || c = '\x7d'

/-- The plain characters at the start: up to a blank, a colon that ends a key, or inside brackets
one of their marks. -/
def plainRun (inFlow : Bool) : Text → Text
  | [] => []
  | c :: rest =>
    if c = ' ' || c = '\t' || isBreak c
        || (c = ':' && (endsWord rest || (inFlow && rest.head?.any isFlowMark)))
        || (inFlow && (isFlowMark c || c = '?')) then []
    else c :: plainRun inFlow rest

/-- The line breaks before the next line of a plain scalar, none when a mark between documents
follows, and the place after them and the spaces behind. -/
def plainBreaks : Nat → Cursor → Option Text × Cursor
  | 0, c => (some [], c)
  | fuel + 1, c =>
    let c := c.seesSeparator
    if startsSeparator c.rest then (none, c)
    else
      let c := c.skipSpaces
      if !c.rest.isEmpty && endsLine c.rest then
        let more := plainBreaks fuel c.lineBreak.2
        (more.1.map (c.lineBreak.1 ++ ·), more.2)
      else (some [], c)

/-- What the blanks after a piece of a plain scalar read as, whether there is a line break among
them, and the place after them. -/
def plainGap (fuel : Nat) (c : Cursor) : Text × Bool × Cursor :=
  let next := c.skipSpaces
  if !next.rest.isEmpty && endsLine next.rest then
    let found := plainBreaks fuel next.lineBreak.2
    let gap : Text := match found.1 with
      | some breaks => folded next.lineBreak.1 breaks
      | none => []
    (gap, true, found.2)
  else (c.run (· = ' '), false, next)

/-- A plain scalar, the place after it and the blanks behind, and whether a line break was among
these. -/
structure Plain where
  said : Text
  after : Cursor
  broke : Bool

/-- The rest of a plain scalar, given the blanks before it. -/
def plainRest (inFlow : Bool) (indent : Int) : Nat → Text → Bool → Cursor → Plain
  | 0, _, broke, c => ⟨[], c, broke⟩
  | fuel + 1, gap, broke, c =>
    let said := plainRun inFlow c.rest
    let isComment := c.rest.head? = some '#'
    let isColon := !isComment && (c.rest.drop said.length).head? = some ':'
    let c := if isColon then c.sees (said.length + 1) else c
    if isComment || said.isEmpty then ⟨[], c, broke⟩
    else
      let next := plainGap fuel (c.forward said.length)
      let after := next.2.2
      if next.1.isEmpty || after.rest.head? = some '#'
          || (!inFlow && (after.column : Int) < indent) then
        ⟨gap ++ said, after, next.2.1⟩
      else
        let rest := plainRest inFlow indent fuel next.1 next.2.1 after
        ⟨gap ++ said ++ rest.said, rest.after, rest.broke⟩

/-- A plain scalar whose further lines are indented by at least `indent`. -/
def plainScalar (inFlow : Bool) (indent : Int) (c : Cursor) : Plain :=
  plainRest inFlow indent (c.rest.length + 1) [] false c

/-! ## Blocks -/

/-- What becomes of the line breaks at the end of a block. -/
inductive Chomping where
  | clip
  | strip
  | keep
deriving DecidableEq, Repr

/-- The sign in the header of a block. -/
def chompingOf? : Char → Option Chomping
  | '+' => some .keep
  | '-' => some .strip
  | _ => none

/-- The header of a block after its mark: the sign and the indentation, in any order. -/
def blockHeader (c : Cursor) : Scan (Chomping × Option Nat × Cursor) := do
  let sign (c : Cursor) : Option Chomping := c.rest.head?.bind chompingOf?
  let digit (c : Cursor) : Option Nat :=
    c.rest.head?.bind fun ch => if ch.isDigit then some (ch.toNat - 0x30) else none
  let found : Option Chomping × Option Nat × Cursor ←
    match sign c with
    | some s =>
      match digit c.step with
      | some 0 => stop c.step
      | some d => pure (some s, some d, c.step.step)
      | none => pure (some s, none, c.step)
    | none =>
      match digit c with
      | some 0 => stop c
      | some d =>
        match sign c.step with
        | some s => pure (some s, some d, c.step.step)
        | none => pure (none, some d, c.step)
      | none => pure (none, none, c)
  if !endsField found.2.2.rest then stop found.2.2
  let after := found.2.2.skipComment
  if endsLine after.rest then return (found.1.getD .clip, found.2.1, after.lineBreak.2)
  else stop after

/-- Empty lines before the first line of a block, and the deepest column among them. -/
def blockIndentation : Nat → Nat → Cursor → Text × Nat × Cursor
  | 0, deepest, c => ([], deepest, c)
  | fuel + 1, deepest, c =>
    match c.rest with
    | [] => ([], deepest, c)
    | ch :: _ =>
      if isBreak ch then
        let more := blockIndentation fuel deepest c.lineBreak.2
        (c.lineBreak.1 ++ more.1, more.2)
      else if ch = ' ' then blockIndentation fuel (max deepest c.step.column) c.step
      else ([], deepest, c)

/-- The place after spaces, but not beyond a column. -/
def skipIndent : Nat → Cursor → Cursor
  | 0, c => c
  | fuel + 1, c =>
    if c.rest.head? = some ' ' then skipIndent fuel c.step else c

/-- Empty lines of a block with the given indentation. -/
def blockBreaks (indent : Nat) : Nat → Cursor → Scanned
  | 0, c => ([], c)
  | fuel + 1, c =>
    let c := skipIndent (indent - c.column) c
    if !c.rest.isEmpty && endsLine c.rest then
      let more := blockBreaks indent fuel c.lineBreak.2
      (c.lineBreak.1 ++ more.1, more.2)
    else ([], c)

/-- The lines of a block: their text, the last line break, and the empty lines behind it. -/
structure Block where
  said : Text
  last : Text
  breaks : Text
  after : Cursor

/-- A line that is not indented further than its block. -/
def isFlush (t : Text) : Bool := !(t.head? = some ' ' || t.head? = some '\t')

/-- The lines of a block after some empty ones. -/
def blockLines (folds : Bool) (indent : Nat) : Nat → Text → Text → Cursor → Block
  | 0, last, breaks, c => ⟨[], last, breaks, c⟩
  | fuel + 1, last, breaks, c =>
    if c.column != indent || c.rest.isEmpty then ⟨[], last, breaks, c⟩
    else
      let line := c.run fun ch => !isBreak ch
      let next := (c.forward line.length).lineBreak
      let empty := blockBreaks indent fuel next.2
      let goesOn := empty.2.column = indent && !empty.2.rest.isEmpty
      let between : Text :=
        if !goesOn then []
        else if folds && next.1 = ['\n'] && isFlush c.rest && isFlush empty.2.rest then
          if empty.1.isEmpty then [' '] else []
        else next.1
      let rest := blockLines folds indent fuel next.1 empty.1 empty.2
      { rest with said := breaks ++ line ++ between ++ rest.said }

/-- A block from its mark on, inside a collection with the given indentation. -/
def blockScalar (indent : Int) (c : Cursor) : Scan Scanned := do
  let folds := c.rest.head? = some '>'
  let fuel := c.rest.length + 1
  let header ← blockHeader c.step
  let least := max 1 (indent + 1).toNat
  let start := header.2.2
  let block := match header.2.1 with
    | some more =>
      let empty := blockBreaks (least + more - 1) fuel start
      blockLines folds (least + more - 1) fuel [] empty.1 empty.2
    | none =>
      let empty := blockIndentation fuel 0 start
      blockLines folds (max least empty.2.1) fuel [] empty.1 empty.2.2
  return match header.1 with
    | .clip => (block.said ++ block.last, block.after)
    | .strip => (block.said, block.after)
    | .keep => (block.said ++ block.last ++ block.breaks, block.after)

end MetaDesk.Yaml
