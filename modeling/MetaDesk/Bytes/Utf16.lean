import MetaDesk.Bytes.Utf8

/-! # UTF-16, low byte first

`step` reads one byte.  It holds the first byte of a unit and both bytes of a leading surrogate;
a surrogate without its partner gives a replacement character. -/

namespace MetaDesk.Utf16

/-- The unit of two bytes. -/
def unit (low high : UInt8) : Nat := low.toNat + 256 * high.toNat

/-- A unit that starts a pair. -/
def isLeading (u : Nat) : Bool := 0xD800 ≤ u && u ≤ 0xDBFF

/-- A unit that ends a pair. -/
def isTrailing (u : Nat) : Bool := 0xDC00 ≤ u && u ≤ 0xDFFF

/-- The character of a pair. -/
def pair (lead trail : Nat) : Char :=
  Char.ofNat (0x10000 + (lead - 0xD800) * 0x400 + (trail - 0xDC00))

/-- A unit between characters: what it gives and which bytes stay held. -/
def first (low high : UInt8) : Text × Bytes :=
  let u := unit low high
  if isLeading u then ([], [low, high])
  else if isTrailing u then ([Utf8.replacement], [])
  else ([Char.ofNat u], [])

/-- One more byte after the held ones. -/
def step : Bytes → UInt8 → Text × Bytes
  | [], b => ([], [b])
  | [a], b => first a b
  | [a, b], c => ([], [a, b, c])
  | a :: b :: c :: _, d =>
    let lead := unit a b
    let u := unit c d
    if isTrailing u then ([pair lead u], [])
    else (Utf8.replacement :: (first c d).1, (first c d).2)

/-- What held bytes give when nothing follows them. -/
def finish (held : Bytes) : Text := if held.isEmpty then [] else [Utf8.replacement]

/-- The two bytes of a unit. -/
def encodeUnit (u : Nat) : Bytes := [UInt8.ofNat (u % 256), UInt8.ofNat (u / 256)]

/-- The bytes of a character: one unit, or the two of a pair. -/
def encodeChar (c : Char) : Bytes :=
  let n := c.toNat
  if n < 0x10000 then encodeUnit n
  else encodeUnit (0xD800 + (n - 0x10000) / 0x400) ++ encodeUnit (0xDC00 + (n - 0x10000) % 0x400)

/-- The bytes of a text. -/
def encode (t : Text) : Bytes := t.flatMap encodeChar

end MetaDesk.Utf16
