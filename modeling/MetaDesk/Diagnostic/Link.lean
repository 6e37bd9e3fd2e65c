import MetaDesk.Keyed
import MetaDesk.Text.Basic

/-! # Links

What is shown of a log leads to files: each shown name or message has an address, and a code when
it is a diagnostic.  Each log replaces all links of the one before. -/

namespace MetaDesk

/-- Where a shown text leads. -/
structure Link where
  address : Text
  code : Option Text
deriving DecidableEq, Repr

/-- Shown texts with their links. -/
abbrev Links := Keyed Text Link

end MetaDesk
