import MetaDesk.Calendar
import MetaDesk.Text.Digit

/-! # What can be wrong with a document

A document is malformed, or it is well-formed and one of its scalars does not say what its tag
promises. -/

namespace MetaDesk.Yaml

/-- A part of a date or a time that does not exist. -/
inductive DateFault where
  | day (e : DayFault)
  | hour
  | minute
  | second
  /-- A clock is ahead or behind by a day or more. -/
  | offset (minutes : Int)
deriving DecidableEq, Repr

/-- A difference between two clocks in days and seconds. -/
def lapse (minutes : Int) : Text :=
  let days := Int.fdiv minutes 1440
  let seconds := Int.fmod minutes 1440 * 60
  let day : Text := if days = 0 then [] else "days=" ++ Text.ofInt days
  let second : Text := if seconds = 0 then [] else "seconds=" ++ Text.ofInt seconds
  let parts := [day, second].filter fun t => !t.isEmpty
  "datetime.timedelta(" ++ (if parts.isEmpty then ['0'] else Text.joinWith ", " parts) ++ ")"

/-- What a malformed document goes wrong in. -/
inductive Layer where
  /-- A character may not stand in a document. -/
  | characters
  /-- No token can be read. -/
  | tokens
  /-- A token stands where it may not. -/
  | grammar
  /-- A name is unknown or given twice, or there is more than one document. -/
  | names
  /-- A node is not what its tag says. -/
  | tags
deriving DecidableEq, Repr

/-- Why a document cannot be read. -/
inductive Fault where
  /-- It breaks the rules of the format. -/
  | malformed (layer : Layer)
  /-- A text is no whole number to the given base. -/
  | badInteger (base : Nat) (text : Text)
  | longInteger (e : LongNumeral)
  /-- A whole number has too many digits to be written out. -/
  | unwritable
  /-- A text is no number. -/
  | badReal (text : Text)
  /-- A number is beyond what it can be taken for. -/
  | vast
  | badDate (e : DateFault)
  /-- A code beyond the last character. -/
  | badCharacter
  /-- A word that is neither true nor false. -/
  | badTruth
  /-- A number without digits. -/
  | noDigits
  /-- A point in time that is none. -/
  | noDate
  /-- A point in time that is written as a mapping. -/
  | mappedDate
  /-- Collections inside one another are too many. -/
  | tooDeep
deriving DecidableEq, Repr

/-- What is said about a date that does not exist. -/
def DateFault.message : DateFault → Text
  | .day e => e.message
  | .hour => "hour must be in 0..23"
  | .minute => "minute must be in 0..59"
  | .second => "second must be in 0..59"
  | .offset n =>
    "offset must be a timedelta strictly between -timedelta(hours=24) and timedelta(hours=24), not "
      ++ lapse n ++ "."

/-- What is said about a fault; nothing where only its kind is told.  Of a text that is no whole
number two hundred characters are shown. -/
def Fault.message? : Fault → Option Text
  | .badInteger base t =>
    some ("invalid literal for int() with base " ++ Text.ofNat base ++ ": "
      ++ (Text.quoted t).take 200)
  | .longInteger e => some e.message
  | .unwritable =>
    some ("Exceeds the limit (4300 digits) for integer string conversion; "
      ++ "use sys.set_int_max_str_digits() to increase the limit")
  | .badReal t => some ("could not convert string to float: " ++ Text.quoted t)
  | .badDate e => some e.message
  | .badCharacter => some "chr() arg not in range(0x110000)"
  | _ => none

end MetaDesk.Yaml
