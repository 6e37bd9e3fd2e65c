import MetaDesk.Bytes.Utf16

/-! # Reading bytes as text

A decoder reads byte after byte and holds what it cannot decide yet, so feeding it a file in pieces
gives the same text as feeding it whole (`feed_append`). -/

namespace MetaDesk

/-- How a file writes text. -/
inductive Encoding where
  | utf8
  | utf16
deriving DecidableEq, Repr

namespace Encoding

/-- One more byte after the held ones. -/
def step : Encoding → Bytes → UInt8 → Text × Bytes
  | .utf8 => Utf8.step
  | .utf16 => Utf16.step

/-- What held bytes give when nothing follows them. -/
def finish : Encoding → Bytes → Text
  | .utf8 => Utf8.finish
  | .utf16 => Utf16.finish

/-- Read bytes after the held ones: the text they give, and what stays held. -/
def read (enc : Encoding) : Bytes → Bytes → Text × Bytes
  | held, [] => ([], held)
  | held, b :: bs =>
    let now := enc.step held b
    let later := enc.read now.2 bs
    (now.1 ++ later.1, later.2)

/-- Read a whole file. -/
def decode (enc : Encoding) (bytes : Bytes) : Text :=
  let all := enc.read [] bytes
  all.1 ++ enc.finish all.2

/-- The bytes of a text. -/
def encode : Encoding → Text → Bytes
  | .utf8 => Utf8.encode
  | .utf16 => Utf16.encode

/-- The text whose encoding is exactly the given bytes. -/
def decode? (enc : Encoding) (bytes : Bytes) : Option Text :=
  let t := enc.decode bytes
  if enc.encode t = bytes then some t else none

end Encoding

/-- A reader between two pieces of a file. -/
structure Decoder where
  encoding : Encoding
  /-- Bytes of a character that is not finished. -/
  held : Bytes := []
deriving DecidableEq, Repr

/-- Read one more piece. -/
def Decoder.feed (d : Decoder) (bytes : Bytes) : Text × Decoder :=
  let all := d.encoding.read d.held bytes
  (all.1, { d with held := all.2 })

theorem Encoding.read_append (enc : Encoding) (held a b : Bytes) :
    enc.read held (a ++ b)
      = ((enc.read held a).1 ++ (enc.read (enc.read held a).2 b).1,
          (enc.read (enc.read held a).2 b).2) := by
  induction a generalizing held with
  | nil => rfl
  | cons x xs ih => simp only [List.cons_append, Encoding.read, ih, List.append_assoc]

theorem Decoder.feed_append (d : Decoder) (a b : Bytes) :
    d.feed (a ++ b) = ((d.feed a).1 ++ ((d.feed a).2.feed b).1, ((d.feed a).2.feed b).2) := by
  simp [Decoder.feed, Encoding.read_append]

/-- Every line break of a file as a line feed: a carriage return stands for one, alone or before
its line feed. -/
def Text.unifyBreaks : Text → Text
  | [] => []
  | '\r' :: '\n' :: rest => '\n' :: unifyBreaks rest
  | c :: rest => (if c = '\r' then '\n' else c) :: unifyBreaks rest

end MetaDesk
