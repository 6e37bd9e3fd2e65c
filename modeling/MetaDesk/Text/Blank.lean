import MetaDesk.Text.Basic

/-! # Blanks and lines

The blanks are the white space of every script and the four information separators.  `trim` drops
them at both ends.  `lines` cuts a text at its line breaks, of which a carriage return and the
line feed after it make one; a break at the end of the text does not open another line. -/

namespace MetaDesk.Text

/-- White space, with the four information separators. -/
def isBlank (c : Char) : Bool :=
  let n := c.toNat
  (0x09 ≤ n && n ≤ 0x0D) || (0x1C ≤ n && n ≤ 0x20) || n == 0x85 || n == 0xA0 || n == 0x1680
    || (0x2000 ≤ n && n ≤ 0x200A) || n == 0x2028 || n == 0x2029 || n == 0x202F || n == 0x205F
    || n == 0x3000

/-- The text without the blanks at its start. -/
def trimStart (t : Text) : Text := t.dropWhile isBlank

/-- The text without the blanks at its end. -/
def trimEnd (t : Text) : Text := (t.reverse.dropWhile isBlank).reverse

/-- The text without the blanks at both ends. -/
def trim (t : Text) : Text := trimEnd (trimStart t)

/-- A character that ends a line. -/
def isLineBreak (c : Char) : Bool :=
  let n := c.toNat
  (0x0A ≤ n && n ≤ 0x0D) || (0x1C ≤ n && n ≤ 0x1E) || n == 0x85 || n == 0x2028 || n == 0x2029

/-- Put a character at the start of the first line, opening one if there is none. -/
def pushFront (c : Char) : List Text → List Text
  | [] => [[c]]
  | line :: more => (c :: line) :: more

/-- The lines of a text, without their breaks. -/
def lines : Text → List Text
  | [] => []
  | '\r' :: '\n' :: rest => [] :: lines rest
  | c :: rest => if isLineBreak c then [] :: lines rest else pushFront c (lines rest)

/-- A mark that some programs write at the start of a text and that is never part of it. -/
def byteOrderMark : Char := '\uFEFF'

/-- The text without byte order marks. -/
def dropMarks (t : Text) : Text := t.filter (· != byteOrderMark)

end MetaDesk.Text
