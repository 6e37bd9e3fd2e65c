import MetaDesk.Text.Letter
import MetaDesk.Text.WordTable

/-! # Words and numerals

Decimal digits of every script, the characters of words, and reading a run of digits as a number.
A numeral of more than 4300 digits is refused. -/

namespace MetaDesk

namespace Text

/-- The value of a decimal digit of any script. -/
def digitValue? (c : Char) : Option Nat :=
  if c.toNat < 0x80 then
    if c.isDigit then some (c.toNat - 0x30) else none
  else (decimalZeros.find? fun first => first ≤ c.toNat && c.toNat ≤ first + 9).map (c.toNat - ·)

/-- A decimal digit of any script. -/
def isDigit (c : Char) : Bool := (digitValue? c).isSome

/-- A letter, a number or an underscore. -/
def isWord (c : Char) : Bool :=
  if c.toNat < 0x80 then c.isAlphanum || c = '_' else inRanges wordRanges c.toNat

/-- The most digits that a numeral may have. -/
def maxDigits : Nat := 4300

/-- The number that a run of digits writes, characters that are none counting as zero. -/
def numeralValue (digits : Text) : Nat :=
  digits.foldl (fun n c => 10 * n + (digitValue? c).getD 0) 0

end Text

/-- A numeral was refused for its number of digits. -/
structure LongNumeral where
  digits : Nat
deriving DecidableEq, Repr

/-- What is said about it. -/
def LongNumeral.message (e : LongNumeral) : Text :=
  "Exceeds the limit (4300 digits) for integer string conversion: value has "
    ++ Text.ofNat e.digits ++ " digits; use sys.set_int_max_str_digits() to increase the limit"

/-- The number that a run of digits writes. -/
def Text.readNumeral (digits : Text) : Except LongNumeral Nat :=
  if digits.length ≤ maxDigits then .ok (numeralValue digits) else .error ⟨digits.length⟩

end MetaDesk
