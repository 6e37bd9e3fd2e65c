import MetaDesk.Numeric.Binary64
import MetaDesk.Text.Blank
import MetaDesk.Text.Digit

/-! # Numbers as they are written

A whole number has a sign and digits, a real number a point and an exponent besides.  Digits of
every script count, an underscore may stand between two digits, and blanks around the number do
not matter. -/

namespace MetaDesk

namespace Text

/-- The number with digits and blanks of other scripts in ASCII. -/
def inAscii (t : Text) : Text :=
  t.map fun c =>
    if c.toNat < 0x80 then c
    else if isBlank c then ' '
    else match digitValue? c with
      | some n => Char.ofNat (0x30 + n)
      | none => '?'

/-- A blank around a number. -/
def isMargin (c : Char) : Bool := c = ' ' || (0x09 ≤ c.toNat && c.toNat ≤ 0x0D)

/-- The number without the blanks around it. -/
def bareNumber (t : Text) : Text :=
  (((inAscii t).dropWhile isMargin).reverse.dropWhile isMargin).reverse

/-- The value of a digit to bases up to sixteen. -/
def basedDigit? (base : Nat) (c : Char) : Option Nat :=
  let n? : Option Nat :=
    if c.isDigit then some (c.toNat - 0x30)
    else if 'a' ≤ c && c ≤ 'f' then some (c.toNat - 0x57)
    else if 'A' ≤ c && c ≤ 'F' then some (c.toNat - 0x37)
    else none
  n?.filter (· < base)

/-- The number without underscores, each of which has to stand between two digits to the base. -/
def ungroup? (base : Nat) (afterDigit : Bool) : Text → Option Text
  | [] => some []
  | '_' :: rest =>
    if afterDigit && rest.head?.any fun c => (basedDigit? base c).isSome
      then ungroup? base false rest else none
  | c :: rest => (ungroup? base (basedDigit? base c).isSome rest).map (c :: ·)

/-- The number that digits write to a base. -/
def basedNumber? (base : Nat) (t : Text) : Option Nat :=
  t.foldl (fun n c => do return base * (← n) + (← basedDigit? base c)) (some 0)

/-- The letter that may name a base after a zero. -/
def baseLetter? : Nat → Option Char
  | 2 => some 'b'
  | 8 => some 'o'
  | 16 => some 'x'
  | _ => none

/-- Whether a number starts with the name of its base, and what follows that. -/
def splitBase (base : Nat) : Text → Bool × Text
  | '0' :: c :: t =>
    if baseLetter? base = some c.toLower then (true, t) else (false, '0' :: c :: t)
  | t => (false, t)

/-- A sign and what follows it. -/
def splitSign : Text → Bool × Text
  | '-' :: t => (true, t)
  | '+' :: t => (false, t)
  | t => (false, t)

end Text

/-- Why a text is no whole number. -/
inductive NumberFault where
  | notANumber
  | tooLong (e : LongNumeral)
deriving DecidableEq, Repr

/-- The base is a power of two. -/
def isBinaryBase (base : Nat) : Bool := (Text.baseLetter? base).isSome

/-- Read a whole number to a base, which the number may name.  The length of the digits at its
start is limited before what follows them is looked at, unless the base is a power of two. -/
def readInteger (base : Nat) (t : Text) : Except NumberFault Int :=
  let signed := Text.splitSign ((Text.inAscii t).dropWhile Text.isMargin)
  let bare := Text.splitBase base signed.2
  let isInside (c : Char) : Bool := c = '_' || (Text.basedDigit? base c).isSome
  match Text.ungroup? base bare.1 (bare.2.takeWhile isInside) with
  | none => .error .notANumber
  | some digits =>
    if digits.isEmpty then .error .notANumber
    else if !isBinaryBase base && digits.length > Text.maxDigits then
      .error (.tooLong ⟨digits.length⟩)
    else if (bare.2.dropWhile isInside).all Text.isMargin then
      match Text.basedNumber? base digits with
      | none => .error .notANumber
      | some n => .ok (if signed.1 then -(n : Int) else n)
    else .error .notANumber

namespace Binary64

/-- Read an exponent, which may be missing. -/
def readExponent? : Text → Option Int
  | [] => some 0
  | e :: t =>
    if e = 'e' || e = 'E' then
      let signed := Text.splitSign t
      if signed.2.isEmpty then none
      else (Text.basedNumber? 10 signed.2).map fun n => if signed.1 then -(n : Int) else n
    else none

/-- The words for numbers that have no digits. -/
def word? (negative : Bool) (t : Text) : Option Binary64 :=
  let t := t.map Char.toLower
  if t = "inf".toList || t = "infinity".toList then some (.infinite negative)
  else if t = "nan".toList then some .notANumber
  else none

/-- Read a number of ASCII characters without anything around it. -/
def readBare? (t : Text) : Option Binary64 :=
  let signed := Text.splitSign t
  let whole := signed.2.takeWhile Char.isDigit
  let rest := signed.2.dropWhile Char.isDigit
  let fraction := if rest.head? = some '.' then (rest.drop 1).takeWhile Char.isDigit else []
  let rest := if rest.head? = some '.' then (rest.drop 1).dropWhile Char.isDigit else rest
  if whole.isEmpty && fraction.isEmpty then word? signed.1 signed.2
  else do
    let digits ← Text.basedNumber? 10 (whole ++ fraction)
    let exponent ← readExponent? rest
    return ofDecimal signed.1 digits (exponent - fraction.length)

/-- Read a number. -/
def read? (t : Text) : Option Binary64 :=
  (Text.ungroup? 10 false (Text.bareNumber t)).bind readBare?

end Binary64

end MetaDesk
