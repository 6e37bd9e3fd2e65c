import MetaDesk.Bytes.Utf8

/-! # Bytes written with sixty-four characters

Four characters write three bytes.  Characters outside the alphabet are passed over, and equal
signs end the text where they fill up the last four. -/

namespace MetaDesk.Base64

/-- The value of a character of the alphabet. -/
def value? (c : Char) : Option Nat :=
  if c.isUpper then some (c.toNat - 0x41)
  else if c.isLower then some (c.toNat - 0x61 + 26)
  else if c.isDigit then some (c.toNat - 0x30 + 52)
  else if c = '+' then some 62
  else if c = '/' then some 63
  else none

/-- Decode, after so many characters of four, with their bits that are left over, and so many equal
signs. -/
def decodeFrom (place left pads : Nat) : Text → Option Bytes
  | [] => if place = 0 then some [] else none
  | c :: rest =>
    if c = '=' then
      if 2 ≤ place then
        if 4 ≤ place + pads + 1 then some [] else decodeFrom place left (pads + 1) rest
      else decodeFrom place left pads rest
    else
      match value? c with
      | none => decodeFrom place left pads rest
      | some v =>
        match place with
        | 0 => decodeFrom 1 v 0 rest
        | 1 => (decodeFrom 2 (v % 16) 0 rest).map (UInt8.ofNat (left * 4 + v / 16) :: ·)
        | 2 => (decodeFrom 3 (v % 4) 0 rest).map (UInt8.ofNat (left * 16 + v / 4) :: ·)
        | _ => (decodeFrom 0 0 0 rest).map (UInt8.ofNat (left * 64 + v) :: ·)

/-- The bytes that a text writes. -/
def decode? (t : Text) : Option Bytes :=
  if t.all fun c => c.toNat < 0x80 then decodeFrom 0 0 0 t else none

end MetaDesk.Base64
