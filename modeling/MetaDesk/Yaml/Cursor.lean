import MetaDesk.Text.Blank

/-! # Places in a document

A cursor is a place between two characters.  It knows its line and its column, both from zero; a
byte order mark takes no column.  It also knows how far the document has been looked at on the way
to it, which may be further than the place itself. -/

namespace MetaDesk.Yaml

/-- A character that ends a line of a document. -/
def isBreak (c : Char) : Bool :=
  c = '\n' || c = '\r' || c = '\u0085' || c = '\u2028' || c = '\u2029'

/-- A place in a document. -/
structure Cursor where
  /-- What follows. -/
  rest : Text
  index : Nat := 0
  line : Nat := 0
  column : Nat := 0
  /-- The furthest character that was looked at. -/
  seen : Nat := 0
deriving DecidableEq, Repr

/-- The text starts with a line break, or is at its end. -/
def endsLine : Text → Bool
  | [] => true
  | c :: _ => isBreak c

/-- The text starts with a space or a line break, or is at its end. -/
def endsField : Text → Bool
  | [] => true
  | c :: _ => c = ' ' || isBreak c

/-- The text starts with a space, a tab or a line break, or is at its end. -/
def endsWord : Text → Bool
  | [] => true
  | c :: _ => c = ' ' || c = '\t' || isBreak c

/-- The text starts with three equal marks that stand alone. -/
def startsMark (mark : Char) : Text → Bool
  | a :: b :: c :: rest => a = mark && b = mark && c = mark && endsWord rest
  | _ => false

/-- The text starts with a mark between documents. -/
def startsSeparator (t : Text) : Bool := startsMark '-' t || startsMark '.' t

namespace Cursor

/-- The place itself, after a look at the character that is so many characters ahead. -/
def sees (n : Nat) (c : Cursor) : Cursor := { c with seen := max c.seen (c.index + n) }

/-- The place after one character, where the next one is looked at. -/
def step (c : Cursor) : Cursor :=
  match c.rest with
  | [] => c
  | ch :: rest =>
    let seen := max c.seen (c.index + 1)
    if isBreak ch && !(ch = '\r' && rest.head? = some '\n') then
      ⟨rest, c.index + 1, c.line + 1, 0, seen⟩
    else
      let column := if ch = Text.byteOrderMark then c.column else c.column + 1
      ⟨rest, c.index + 1, c.line, column, seen⟩

/-- The place itself, after a look for a mark between documents. -/
def seesSeparator (c : Cursor) : Cursor :=
  let isMark (m : Char) : Bool := c.rest.take 3 = [m, m, m]
  c.sees (if isMark '-' || isMark '.' then 3 else 2)

/-- The place after so many characters. -/
def forward : Nat → Cursor → Cursor
  | 0, c => c
  | n + 1, c => forward n c.step

/-- The characters from here on for which `p` holds. -/
def run (p : Char → Bool) (c : Cursor) : Text := c.rest.takeWhile p

/-- The place after the characters for which `p` holds. -/
def skip (p : Char → Bool) (c : Cursor) : Cursor := c.forward (c.run p).length

/-- The place after spaces. -/
def skipSpaces (c : Cursor) : Cursor := c.skip (· = ' ')

/-- Whether there is a line break here; the text that stands for it, and the place after it. -/
def lineBreak (c : Cursor) : Text × Cursor :=
  match c.rest with
  | '\r' :: '\n' :: _ => (['\n'], c.forward 2)
  | ch :: _ =>
    if ch = '\n' || ch = '\r' || ch = '\u0085' then (['\n'], c.step)
    else if isBreak ch then ([ch], c.step)
    else ([], c)
  | [] => ([], c)

/-- The place after spaces and a comment. -/
def skipComment (c : Cursor) : Cursor :=
  let c := c.skipSpaces
  if c.rest.head? = some '#' then c.skip (fun ch => !isBreak ch) else c

end Cursor

end MetaDesk.Yaml
