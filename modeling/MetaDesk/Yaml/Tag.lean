import MetaDesk.Text.Pattern
import MetaDesk.Yaml.Scalar

/-! # Tags

A tag says what a node stands for.  It is written before the node, or follows from the way a plain
scalar is written: as one of the words for true and false, as a number, as a date, or as nothing. -/

namespace MetaDesk.Yaml

/-- What a node stands for. -/
inductive Tag where
  | null
  | truth
  | integer
  | real
  | binary
  | timestamp
  | ordered
  | pairs
  | set
  | text
  | sequence
  | mapping
  /-- The key of entries that are taken over from another mapping. -/
  | merge
  /-- The key of the entry that a mapping stands for. -/
  | default
  | other
deriving DecidableEq, Repr, Inhabited

namespace Tag

/-- What the names of tags start with. -/
def domain : Text := "tag:yaml.org,2002:"

/-- The tags that can be written out. -/
def names : List (Text × Tag) :=
  [("null", .null), ("bool", .truth), ("int", .integer), ("float", .real), ("binary", .binary),
   ("timestamp", .timestamp), ("omap", .ordered), ("pairs", .pairs), ("set", .set), ("str", .text),
   ("seq", .sequence), ("map", .mapping), ("merge", .merge), ("value", .default)]

/-- The tag of a name. -/
def ofName (name : Text) : Tag :=
  match Text.after? domain name with
  | some rest => (names.lookup rest).getD .other
  | none => .other

/-! ## Plain scalars -/

open Pattern

/-- A word in lower case, in upper case, and with a capital. -/
def spellings (w : Text) : List Text :=
  [w, w.map Char.toUpper, (w.take 1).map Char.toUpper ++ w.drop 1]

/-- A digit. -/
def digit : Pattern := one Char.isDigit

/-- A digit or an underscore. -/
def spacedDigit : Pattern := one fun c => c.isDigit || c = '_'

/-- A sign or nothing. -/
def sign : Pattern := opt (among "-+")

/-- A number from `0` to `59` after a colon. -/
def sixtieth : Pattern := row [word ":", opt (one fun c => '0' ≤ c && c ≤ '5'), digit]

/-- The words for true and false. -/
def truths : Pattern :=
  words (["yes", "no", "true", "false", "on", "off"].flatMap fun w => spellings w.toList)

/-- A power of ten. -/
def power : Pattern := row [among "eE", among "-+", plus digit]

/-- Numbers with a point. -/
def reals : Pattern := any
  [row [sign, digit, many spacedDigit, word ".", many spacedDigit, opt power],
   row [word ".", digit, many spacedDigit, opt power],
   row [sign, digit, many spacedDigit, plus sixtieth, word ".", many spacedDigit],
   row [sign, word ".", words (spellings "inf")],
   row [word ".", words ["nan", "NaN", "NAN"]]]

/-- Whole numbers: to the bases of two, eight, ten, sixteen and sixty. -/
def integers : Pattern := any
  [row [sign, word "0b", plus (among "01_")],
   row [sign, word "0", plus (among "01234567_")],
   row [sign, word "0"],
   row [sign, one fun c => '1' ≤ c && c ≤ '9', many spacedDigit],
   row [sign, word "0x", plus (one fun c => (hexValue? c).isSome || c = '_')],
   row [sign, one fun c => '1' ≤ c && c ≤ '9', many spacedDigit, plus sixtieth]]

/-- One digit or two. -/
def shortNumber : Pattern := seq digit (opt digit)

/-- A time of the day after a date. -/
def clock : Pattern := row
  [alt (among "Tt") (plus (among " \t")), shortNumber, word ":", times 2 digit, word ":",
   times 2 digit, opt (seq (word ".") (many digit)),
   opt (seq (many (among " \t"))
    (alt (word "Z") (row [among "-+", shortNumber, opt (seq (word ":") (times 2 digit))])))]

/-- Everything that can be read as a date or a point in time. -/
def anyTimestamp : Pattern :=
  row [times 4 digit, word "-", shortNumber, word "-", shortNumber, opt clock]

/-- Dates and points in time that need no tag. -/
def timestamps : Pattern := any
  [row [times 4 digit, word "-", times 2 digit, word "-", times 2 digit],
   row [times 4 digit, word "-", shortNumber, word "-", shortNumber, clock]]

/-- Ways to write nothing. -/
def nulls : Pattern := words ["~", "null", "Null", "NULL", ""]

/-- The tag of a plain scalar of one line without one.  Signs that cannot start a plain scalar
stand for nothing that can be read. -/
def ofLine (t : Text) : Tag :=
  if truths.fits t then .truth
  else if reals.fits t then .real
  else if integers.fits t then .integer
  else if t = "<<".toList then .merge
  else if nulls.fits t then .null
  else if timestamps.fits t then .timestamp
  else if t = ['='] then .default
  else if t = ['!'] || t = ['&'] || t = ['*'] then .other
  else .text

/-- The tag of a scalar that is read as a plain one; a line feed at its end does not matter. -/
def ofPlain (t : Text) : Tag :=
  if t.getLast? = some '\n' && t.length != 1 then ofLine t.dropLast else ofLine t

end Tag

end MetaDesk.Yaml
