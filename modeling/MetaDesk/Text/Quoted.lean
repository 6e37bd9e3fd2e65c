import MetaDesk.Text.Basic
import MetaDesk.Text.CasedTable
import MetaDesk.Text.PrintableTable

/-! # Quoted texts

How a message shows a value: between apostrophes, or between quotation marks when the text has an
apostrophe and no quotation mark, with a backslash before what would end the text and numbers for
what cannot be printed. -/

namespace MetaDesk.Text

/-- The last `width` hexadecimal digits of a number. -/
def hexDigits (width n : Nat) : Text :=
  let digits := Nat.toDigits 16 n
  List.replicate (width - digits.length) '0' ++ digits

/-- A character that is shown as itself. -/
def isPrinted (c : Char) : Bool :=
  if c.toNat < 0x80 then 0x20 ≤ c.toNat && c.toNat < 0x7F
  else !inRanges unprintedRanges c.toNat

/-- A character between the given quotes. -/
def quoteChar (quote c : Char) : Text :=
  if c = quote || c = '\\' then ['\\', c]
  else if c = '\t' then "\\t"
  else if c = '\n' then "\\n"
  else if c = '\r' then "\\r"
  else if isPrinted c then [c]
  else if c.toNat < 0x100 then "\\x" ++ hexDigits 2 c.toNat
  else if c.toNat < 0x10000 then "\\u" ++ hexDigits 4 c.toNat
  else "\\U" ++ hexDigits 8 c.toNat

/-- The text as a message shows it. -/
def quoted (t : Text) : Text :=
  let quote := if t.contains '\'' && !t.contains '"' then '"' else '\''
  quote :: t.flatMap (quoteChar quote) ++ [quote]

end MetaDesk.Text
