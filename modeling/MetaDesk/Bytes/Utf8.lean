import MetaDesk.Text.Basic

/-! # UTF-8

`step` reads one byte: it holds the bytes of a sequence that is not finished, gives the character
when the last byte is there, and gives a replacement character for every sequence that breaks off,
as long as its bytes could start one.  A byte that breaks a sequence is read again on its own.

`decode?` is the strict reading: the text whose encoding is exactly the given bytes. -/

namespace MetaDesk

/-- The content of a file. -/
abbrev Bytes := List UInt8

namespace Utf8

/-- What stands for bytes that are no character. -/
def replacement : Char := '\uFFFD'

/-- A byte that continues a sequence. -/
def isTail (b : UInt8) : Bool := 0x80 ≤ b && b ≤ 0xBF

/-- The second byte `b` may follow the first byte `a`. -/
def mayFollow (a b : UInt8) : Bool :=
  isTail b && (a != 0xE0 || 0xA0 ≤ b) && (a != 0xED || b ≤ 0x9F)
    && (a != 0xF0 || 0x90 ≤ b) && (a != 0xF4 || b ≤ 0x8F)

/-- Two bytes that start the code of a surrogate, which is no character. -/
def startsSurrogate (a b : UInt8) : Bool := a == 0xED && 0xA0 ≤ b && b ≤ 0xBF

/-- The character with the given value bits. -/
def ofBits (first : Nat) (tails : List UInt8) : Char :=
  Char.ofNat (tails.foldl (fun n b => n * 64 + b.toNat % 64) first)

/-- A byte between characters: what it gives and which bytes stay held. -/
def first (b : UInt8) : Text × Bytes :=
  if b < 0x80 then ([Char.ofNat b.toNat], [])
  else if 0xC2 ≤ b && b ≤ 0xF4 then ([], [b])
  else ([replacement], [])

/-- Give `lost` replacement characters and read the byte afresh. -/
def restart (lost : Nat) (b : UInt8) : Text × Bytes :=
  (List.replicate lost replacement ++ (first b).1, (first b).2)

/-- One more byte after the held ones. -/
def step : Bytes → UInt8 → Text × Bytes
  | [], b => first b
  | [a], b =>
    if mayFollow a b then
      if a < 0xE0 then ([ofBits (a.toNat % 32) [b]], []) else ([], [a, b])
    else if startsSurrogate a b then ([], [a, b])
    else restart 1 b
  | [a, b], c =>
    if startsSurrogate a b then restart 2 c
    else if isTail c then
      if a < 0xF0 then ([ofBits (a.toNat % 16) [b, c]], []) else ([], [a, b, c])
    else restart 1 c
  | a :: b :: c :: _, d =>
    if isTail d then ([ofBits (a.toNat % 8) [b, c, d]], []) else restart 1 d

/-- What held bytes give when nothing follows them. -/
def finish : Bytes → Text
  | [] => []
  | [a, b] => List.replicate (if startsSurrogate a b then 2 else 1) replacement
  | _ => [replacement]

/-- The bytes of a text. -/
def encode (t : Text) : Bytes := t.flatMap String.utf8EncodeChar

end Utf8

end MetaDesk
