import MetaDesk.Bytes.Utf8
import MetaDesk.Path.Basic
import MetaDesk.Text.Quoted

/-! # Drive paths and file addresses

A drive path starts with a letter, a colon and a slash of either kind.  `fileUri?` writes such a
path, or one from the root, as a `file` address; there is none for a relative path. -/

namespace MetaDesk

namespace Text

/-- A path on a drive. -/
def isDrivePath : Text → Bool
  | letter :: ':' :: slash :: _ => letter.isAlpha && (slash = '/' || slash = '\\')
  | _ => false

/-- A byte that an address shows as itself. -/
def isPlainByte (b : UInt8) : Bool :=
  let c := Char.ofNat b.toNat
  b < 0x80 && (c.isAlphanum || c = '_' || c = '.' || c = '-' || c = '~' || c = '/')

/-- A byte in an address, by its number when it cannot stand for itself. -/
def addressByte (b : UInt8) : Text :=
  if isPlainByte b then [Char.ofNat b.toNat] else '%' :: (hexDigits 2 b.toNat).map Char.toUpper

/-- A text in an address. -/
def addressed (t : Text) : Text := (Utf8.encode t).flatMap addressByte

end Text

namespace Path

/-- The names of a drive path from the drive on. -/
def driveNames (t : Text) : List Text := namesOf (Text.swap '\\' '/' (t.drop 2))

/-- The `file` address of a path on a drive or from the root. -/
def fileUri? (t : Text) : Option Text :=
  if t.isDrivePath then
    some ("file:///" ++ t.take 2 ++ "/" ++ Text.addressed (Text.joinWith ['/'] (driveNames t)))
  else
    let p := ofText t
    if p.isAbsolute then some ("file://" ++ Text.addressed p.text) else none

end Path

end MetaDesk
