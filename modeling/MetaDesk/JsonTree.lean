import MetaDesk.Text.Quoted

/-! # JSON

Trees of texts and whole numbers, and their layout in lines with two blanks for each level.  Texts
are written in ASCII: a character beyond the first plane takes two escapes. -/

namespace MetaDesk

/-- A tree. -/
inductive JsonTree where
  | text (t : Text)
  | number (n : Int)
  | list (items : List JsonTree)
  | record (members : List (Text × JsonTree))
deriving Repr

namespace JsonTree

/-- An escape of four hexadecimal digits. -/
def unit (n : Nat) : Text := '\\' :: 'u' :: Text.hexDigits 4 n

/-- A character between quotation marks. -/
def escaped (c : Char) : Text :=
  let n := c.toNat
  if c = '"' then "\\\""
  else if c = '\\' then "\\\\"
  else if c = '\n' then "\\n"
  else if c = '\r' then "\\r"
  else if c = '\t' then "\\t"
  else if n = 0x08 then "\\b"
  else if n = 0x0C then "\\f"
  else if 0x20 ≤ n && n < 0x7F then [c]
  else if n < 0x10000 then unit n
  else unit (0xD800 + (n - 0x10000) / 0x400) ++ unit (0xDC00 + (n - 0x10000) % 0x400)

/-- A text between quotation marks. -/
def written (t : Text) : Text := '"' :: t.flatMap escaped ++ ['"']

/-- The blanks before a line of a level. -/
def indent (level : Nat) : Text := '\n' :: List.replicate (2 * level) ' '

/-- Items between brackets, each on a line of the next level. -/
def enclosed (level : Nat) (start stop : Char) (items : List Text) : Text :=
  if items.isEmpty then [start, stop]
  else
    start :: indent (level + 1) ++ Text.joinWith (',' :: indent (level + 1)) items
      ++ indent level ++ [stop]

mutual

/-- The layout of a tree from a level on. -/
def layout (level : Nat) : JsonTree → Text
  | .text t => written t
  | .number n => Text.ofInt n
  | .list items => enclosed level '[' ']' (layoutAll (level + 1) items)
  | .record members => enclosed level '\x7b' '\x7d' (layoutMembers (level + 1) members)

/-- The layouts of items. -/
def layoutAll (level : Nat) : List JsonTree → List Text
  | [] => []
  | item :: rest => layout level item :: layoutAll level rest

/-- The layouts of members. -/
def layoutMembers (level : Nat) : List (Text × JsonTree) → List Text
  | [] => []
  | (name, item) :: rest => (written name ++ ": " ++ layout level item) :: layoutMembers level rest

end

end JsonTree

end MetaDesk
