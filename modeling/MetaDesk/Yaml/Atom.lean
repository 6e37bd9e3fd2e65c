import MetaDesk.Calendar
import MetaDesk.Numeric.Binary64
import MetaDesk.Bytes.Utf8
import MetaDesk.Text.Digit
import MetaDesk.Text.Quoted
import MetaDesk.Yaml.Fault

/-! # Atoms

An atom is a value without parts: nothing, a truth value, a number, a text, bytes, or a point in
time.  Two atoms are the same key when they count the same number, show the same instant, or are
of one kind and equal. -/

namespace MetaDesk.Yaml

/-- How far a clock is ahead of the universal one. -/
inductive Offset where
  | universal
  | minutes (n : Int)
deriving DecidableEq, Repr

/-- A point in time. -/
structure Moment where
  day : Day
  hour : Nat
  minute : Nat
  second : Nat
  micro : Nat
  offset : Option Offset
deriving DecidableEq, Repr

/-- A value without parts. -/
inductive Atom where
  | null
  | truth (b : Bool)
  | integer (n : Int)
  | real (x : Binary64)
  /-- The one number that is none and that has a name. -/
  | undefined
  | text (t : Text)
  | bytes (b : Bytes)
  | date (d : Day)
  | moment (m : Moment)
deriving DecidableEq, Inhabited, Repr

/-! ## Texts of atoms -/

/-- The day as a message shows it among other values. -/
def dayCoded (d : Day) : Text :=
  Text.joinWith ", " [Text.ofNat d.year, Text.ofNat d.month, Text.ofNat d.day]

namespace Moment

/-- The point in time as a message shows it. -/
def shown (m : Moment) : Text :=
  let micro : Text := if m.micro = 0 then [] else "." ++ Day.padded 6 m.micro
  let offset : Text := match m.offset with
    | none => []
    | some .universal => "+00:00"
    | some (.minutes n) =>
      (if n < 0 then "-" else "+" : Text) ++ Day.padded 2 (n.natAbs / 60) ++ ":"
        ++ Day.padded 2 (n.natAbs % 60)
  m.day.dashed ++ " " ++ Day.padded 2 m.hour ++ ":" ++ Day.padded 2 m.minute ++ ":"
    ++ Day.padded 2 m.second ++ micro ++ offset

/-- The point in time as a message shows it among other values. -/
def coded (m : Moment) : Text :=
  let clock := if m.micro != 0 then [m.hour, m.minute, m.second, m.micro]
    else if m.second != 0 then [m.hour, m.minute, m.second] else [m.hour, m.minute]
  let offset : Text := match m.offset with
    | none => []
    | some .universal => ", tzinfo=datetime.timezone.utc"
    | some (.minutes n) =>
      if n = 0 then ", tzinfo=datetime.timezone.utc"
      else ", tzinfo=datetime.timezone(" ++ lapse n ++ ")"
  "datetime.datetime(" ++ dayCoded m.day ++ ", " ++ Text.joinWith ", " (clock.map Text.ofNat)
    ++ offset ++ ")"

end Moment

namespace Moment

/-- The microseconds of a point in time since the start of the calendar, by its own clock. -/
def ticks (m : Moment) : Int :=
  ((((m.day.number * 24 + m.hour) * 60 + m.minute) * 60 + m.second) * 1000000 + m.micro : Nat)

/-- How far the clock is ahead of the universal one, in microseconds. -/
def ahead? (m : Moment) : Option Int :=
  m.offset.map fun
    | .universal => 0
    | .minutes n => n * 60000000

/-- The same point in time.  One without an offset is none with one. -/
def same (m n : Moment) : Bool :=
  match m.ahead?, n.ahead? with
  | none, none => m.ticks = n.ticks
  | some a, some b => m.ticks - a = n.ticks - b
  | _, _ => false

end Moment

namespace Atom

/-- A byte among others, between the given quotes. -/
def codedByte (quote : Char) (x : UInt8) : Text :=
  if x.toNat < 0x80 then Text.quoteChar quote (Char.ofNat x.toNat)
  else "\\x" ++ Text.hexDigits 2 x.toNat

/-- Bytes as a message shows them. -/
def codedBytes (b : Bytes) : Text :=
  let quote := if b.contains 0x27 && !b.contains 0x22 then '"' else '\''
  'b' :: quote :: b.flatMap (codedByte quote) ++ [quote]

/-- The atom as a message shows it among other values. -/
def coded : Atom → Text
  | .null => "None"
  | .truth b => if b then "True" else "False"
  | .integer n => Text.ofInt n
  | .real x => x.plain
  | .undefined => "nan"
  | .text t => Text.quoted t
  | .bytes b => codedBytes b
  | .date d => "datetime.date(" ++ dayCoded d ++ ")"
  | .moment m => m.coded

/-- The atom as a message shows it alone. -/
def shown : Atom → Text
  | .text t => t
  | .date d => d.dashed
  | .moment m => m.shown
  | a => a.coded

/-- The atom has a text; a whole number of too many digits has none. -/
def isWritable : Atom → Bool
  | .integer n => (Text.ofNat n.natAbs).length ≤ Text.maxDigits
  | _ => true

/-- The kind of an atom. -/
def kind : Atom → Text
  | .null => "NoneType"
  | .truth _ => "bool"
  | .integer _ => "int"
  | .real _ => "float"
  | .undefined => "float"
  | .text _ => "str"
  | .bytes _ => "bytes"
  | .date _ => "date"
  | .moment _ => "datetime"

/-- The whole number that an atom is equal to. -/
def wholeNumber? : Atom → Option Int
  | .truth b => some (if b then 1 else 0)
  | .integer n => some n
  | .real x => x.toInt?
  | _ => none

/-- Two atoms are the same key.  Numbers are compared by what they count, and no number is the
same as one that is none. -/
def same (a b : Atom) : Bool :=
  match a.wholeNumber?, b.wholeNumber? with
  | some m, some n => m = n
  | none, none =>
    match a, b with
    | .real .notANumber, _ => false
    | .moment m, .moment n => m.same n
    | a, b => a = b
  | _, _ => false

/-- An atom that counts as nothing. -/
def isNothing : Atom → Bool
  | .null => true
  | .truth b => !b
  | .integer n => n = 0
  | .real x => x.toInt? = some 0
  | .text t => t.isEmpty
  | .bytes b => b.isEmpty
  | _ => false

end Atom

end MetaDesk.Yaml
