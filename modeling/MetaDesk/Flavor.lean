import MetaDesk.Text.Letter

/-! # Flavors

There are two dialects of the language, and a source file is written in one of them.  The suffix of
a main file tells which; a header can belong to either. -/

namespace MetaDesk

/-- A dialect. -/
inductive Flavor where
  | mql4
  | mql5
deriving DecidableEq, Repr, Inhabited

namespace Flavor

/-- The name of a flavor. -/
def name : Flavor → Text
  | .mql4 => "mql4"
  | .mql5 => "mql5"

/-- The name in capitals. -/
def label : Flavor → Text
  | .mql4 => "MQL4"
  | .mql5 => "MQL5"

/-- The number that tells the flavors apart. -/
def digit : Flavor → Text
  | .mql4 => "4"
  | .mql5 => "5"

/-- The flavor with a name. -/
def ofName? (t : Text) : Option Flavor :=
  if t = name .mql4 then some .mql4 else if t = name .mql5 then some .mql5 else none

/-- The flavor of main files with a suffix. -/
def ofSuffix? (suffix : Text) : Option Flavor :=
  let suffix := Text.lower suffix
  if suffix = ".mq4".toList then some .mql4
  else if suffix = ".mq5".toList then some .mql5
  else none

/-- The suffix of headers. -/
def headerSuffix : Text := ".mqh"

/-- Files with this suffix are headers. -/
def isHeader (suffix : Text) : Bool := Text.lower suffix = headerSuffix

/-- Files with this suffix are main files or headers. -/
def isSource (suffix : Text) : Bool := (ofSuffix? suffix).isSome || isHeader suffix

/-- The flavor that a text speaks of, the older one first. -/
def mentioned? (t : Text) : Option Flavor :=
  let t := Text.lower t
  if Text.holds (name .mql4) t then some .mql4
  else if Text.holds (name .mql5) t then some .mql5
  else none

theorem ofName?_name (f : Flavor) : ofName? f.name = some f := by cases f <;> rfl

end Flavor

end MetaDesk
