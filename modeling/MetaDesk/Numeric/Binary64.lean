import MetaDesk.Text.Basic

/-! # Binary floating point, exactly

A number of double precision is a sign, a whole number below `2^53` and a power of two, or one of
the special values.  `ofRatio` rounds a fraction to the nearest such number, `shortest` finds the
fewest decimal digits that round back to it, and `rounded` the digits of a given grid; all three
compute with whole numbers only. -/

namespace MetaDesk

/-- The nearest whole number to `num / den`, the even one of two. -/
def roundDiv (num den : Nat) : Nat :=
  let q := num / den
  let r := num % den
  if 2 * r < den then q
  else if den < 2 * r then q + 1
  else if q % 2 = 0 then q else q + 1

/-- A number of double precision. -/
inductive Binary64 where
  | finite (negative : Bool) (mantissa : Nat) (exponent : Int)
  | infinite (negative : Bool)
  | notANumber
deriving DecidableEq, Repr, Inhabited

namespace Binary64

/-- `num / den` over `base ^ e`, as a fraction. -/
def scaled (base num den : Nat) (e : Int) : Nat × Nat :=
  if 0 ≤ e then (num, den * Nat.pow base e.toNat) else (num * Nat.pow base (-e).toNat, den)

/-- The nearest number to `num / den`, the one with the even mantissa of two. -/
def ofRatio (negative : Bool) (num den : Nat) : Binary64 :=
  if num = 0 then .finite negative 0 0
  else
    let e := (Nat.log2 num : Int) - Nat.log2 den - 52
    let frac := scaled 2 num den e
    let e := if frac.1 / frac.2 < Nat.pow 2 52 then e - 1 else e
    let e := max e (-1074)
    let frac := scaled 2 num den e
    let m := roundDiv frac.1 frac.2
    let normal : Nat × Int := if m = Nat.pow 2 53 then (Nat.pow 2 52, e + 1) else (m, e)
    if normal.2 > 971 then .infinite negative else .finite negative normal.1 normal.2

/-- The nearest number to an integer. -/
def ofInt (n : Int) : Binary64 := ofRatio (n < 0) n.natAbs 1

/-- The nearest number to `digits * 10 ^ exponent`. -/
def ofDecimal (negative : Bool) (digits : Nat) (exponent : Int) : Binary64 :=
  let size := (Text.ofNat digits).length
  if digits = 0 then .finite negative 0 0
  else if exponent + size > 400 then .infinite negative
  else if exponent + size < -400 then .finite negative 0 0
  else if 0 ≤ exponent then ofRatio negative (digits * Nat.pow 10 exponent.toNat) 1
  else ofRatio negative digits (Nat.pow 10 (-exponent).toNat)

/-- The size of a finite number as a fraction. -/
def ratio (m : Nat) (e : Int) : Nat × Nat :=
  if 0 ≤ e then (m * Nat.pow 2 e.toNat, 1) else (m, Nat.pow 2 (-e).toNat)

/-- Greater than zero. -/
def isPositive : Binary64 → Bool
  | .finite negative m _ => !negative && m != 0
  | .infinite negative => !negative
  | .notANumber => false

/-- The integer that a number without fractional part is. -/
def toInt? : Binary64 → Option Int
  | .finite negative m e =>
    let frac := ratio m e
    if frac.1 % frac.2 = 0 then
      some (if negative then -(frac.1 / frac.2 : Nat) else (frac.1 / frac.2 : Nat))
    else none
  | _ => none

/-- The same number with the other sign. -/
def neg : Binary64 → Binary64
  | .finite negative m e => .finite (!negative) m e
  | .infinite negative => .infinite (!negative)
  | .notANumber => .notANumber

/-- A finite number as a multiple of a power of two that is not above its own. -/
def aligned (negative : Bool) (m : Nat) (e least : Int) : Int :=
  let n : Int := (m * Nat.pow 2 (e - least).toNat : Nat)
  if negative then -n else n

/-- The nearest number to `n * 2 ^ e`. -/
def ofScaled (n e : Int) : Binary64 :=
  if 0 ≤ e then ofRatio (n < 0) (n.natAbs * Nat.pow 2 e.toNat) 1
  else ofRatio (n < 0) n.natAbs (Nat.pow 2 (-e).toNat)

/-- The sum of two numbers. -/
def add : Binary64 → Binary64 → Binary64
  | .finite s m e, .finite s' m' e' =>
    if m = 0 && m' = 0 then .finite (s && s') 0 0
    else
      let least := min e e'
      ofScaled (aligned s m e least + aligned s' m' e' least) least
  | .infinite s, .infinite s' => if s = s' then .infinite s else .notANumber
  | .infinite s, .finite _ _ _ => .infinite s
  | .finite _ _ _, .infinite s => .infinite s
  | _, _ => .notANumber

/-- The product of two numbers. -/
def mul : Binary64 → Binary64 → Binary64
  | .finite s m e, .finite s' m' e' =>
    if m = 0 || m' = 0 then .finite (s != s') 0 0
    else ofScaled (aligned s m 0 0 * aligned s' m' 0 0) (e + e')
  | .infinite s, .infinite s' => .infinite (s != s')
  | .infinite s, .finite s' m _ => if m = 0 then .notANumber else .infinite (s != s')
  | .finite s m _, .infinite s' => if m = 0 then .notANumber else .infinite (s != s')
  | _, _ => .notANumber

/-- The power of ten of the first digit of a positive fraction, looked for near a guess. -/
def decimalExponent (num den : Nat) : Int :=
  let guess : Int := ((Nat.log2 num : Int) - Nat.log2 den) * 30103 / 100000
  let fits (k : Int) : Bool :=
    let frac := scaled 10 num den k
    1 ≤ frac.1 / frac.2 && frac.1 / frac.2 < 10
  match [guess, guess + 1, guess - 1, guess + 2, guess - 2].find? fits with
  | some k => k
  | none => guess

/-- Decimal digits and the power of ten of the last one. -/
structure Digits where
  digits : Nat
  exponent : Int
deriving DecidableEq, Repr

/-- The fraction rounds to the number `m * 2 ^ e`: it lies between the halfway points to the
neighbours, which belong to the number iff `m` is even. -/
def roundsTo (m : Nat) (e : Int) (num den : Nat) : Bool :=
  let below : Nat × Nat :=
    if m = Nat.pow 2 52 && e > -1074 then ratio (4 * m - 1) (e - 2) else ratio (2 * m - 1) (e - 1)
  let above := ratio (2 * m + 1) (e - 1)
  if m % 2 = 0 then
    below.1 * den ≤ num * below.2 && num * above.2 ≤ above.1 * den
  else
    below.1 * den < num * below.2 && num * above.2 < above.1 * den

/-- The point of the grid `10 ^ k` next to the number that rounds to it, if one of the two
neighbours does. -/
def onGrid (m : Nat) (e k : Int) : Option Digits :=
  let value := ratio m e
  let frac := scaled 10 value.1 value.2 k
  let d := frac.1 / frac.2
  let hit (d : Nat) : Bool :=
    let point := scaled 10 d 1 (-k)
    roundsTo m e point.1 point.2
  let nearer := roundDiv frac.1 frac.2
  let farther := if nearer = d then d + 1 else d
  if hit nearer then some ⟨nearer, k⟩
  else if hit farther then some ⟨farther, k⟩
  else none

/-- The fewest digits that read back as the number, nearest to it among those. -/
def shortest (m : Nat) (e : Int) : Digits :=
  if m = 0 then ⟨0, 0⟩
  else
    let value := ratio m e
    let top := decimalExponent value.1 value.2
    let grids : List Int := (List.range 17).map fun (n : Nat) => top - (n : Int)
    match grids.findSome? (onGrid m e) with
    | some found => found
    | none => ⟨roundDiv (scaled 10 value.1 value.2 (top - 16)).1
        (scaled 10 value.1 value.2 (top - 16)).2, top - 16⟩

/-- Digits without the zeros at their end. -/
def dropZeros : Nat → Digits → Digits
  | 0, d => d
  | fuel + 1, d =>
    if d.digits != 0 && d.digits % 10 = 0 then dropZeros fuel ⟨d.digits / 10, d.exponent + 1⟩
    else d

/-- A minus sign for a negative number. -/
def sign (negative : Bool) : Text := if negative then "-" else ""

/-- An exponent of at least two digits with its sign. -/
def exponentText (e : Int) : Text :=
  let digits := Text.ofNat e.natAbs
  (if e < 0 then "e-" else "e+" : Text) ++ List.replicate (2 - digits.length) '0' ++ digits

/-- Digits with the point before the last `places` of them. -/
def pointed (places digits : Nat) : Text :=
  let all := Text.ofNat digits
  let all := List.replicate (places + 1 - all.length) '0' ++ all
  let whole := all.take (all.length - places)
  if places = 0 then whole else whole ++ "." ++ all.drop (all.length - places)

/-- Digits as `d.ddde+XX`. -/
def scientific (d : Digits) : Text :=
  let all := Text.ofNat d.digits
  let e := d.exponent + all.length - 1
  all.take 1 ++ (if all.length ≤ 1 then [] else '.' :: all.drop 1) ++ exponentText e

/-- Exactly two places after the point, a half going to the even neighbour. -/
def hundredths : Binary64 → Text
  | .finite negative m e =>
    let frac := ratio m e
    sign negative ++ pointed 2 (roundDiv (100 * frac.1) frac.2)
  | .infinite negative => sign negative ++ "inf"
  | .notANumber => "nan"

/-- At most six digits, the zeros at the end left out; with an exponent when the first digit
stands before the fourth place after the point or beyond the sixth before it. -/
def sixDigits : Binary64 → Text
  | .finite negative m e =>
    if m = 0 then sign negative ++ "0"
    else
      let value := ratio m e
      let top := decimalExponent value.1 value.2
      let frac := scaled 10 value.1 value.2 (top - 5)
      let d : Digits := ⟨roundDiv frac.1 frac.2, top - 5⟩
      let d := if d.digits = 1000000 then ⟨100000, d.exponent + 1⟩ else d
      let top := d.exponent + 5
      let d := dropZeros 6 d
      sign negative ++
        if -4 ≤ top && top < 6 then
          if 0 ≤ d.exponent then Text.ofNat (d.digits * Nat.pow 10 d.exponent.toNat)
          else pointed (-d.exponent).toNat d.digits
        else scientific d
  | .infinite negative => sign negative ++ "inf"
  | .notANumber => "nan"

/-- The fewest digits that read back, with at least one after the point; with an exponent when
the first digit stands before the fourth place after the point or beyond the sixteenth before it. -/
def plain : Binary64 → Text
  | .finite negative m e =>
    if m = 0 then sign negative ++ "0.0"
    else
      let d := dropZeros 17 (shortest m e)
      let top := d.exponent + (Text.ofNat d.digits).length - 1
      sign negative ++
        if -4 ≤ top && top < 16 then
          if 0 ≤ d.exponent then Text.ofNat (d.digits * Nat.pow 10 d.exponent.toNat) ++ ".0"
          else pointed (-d.exponent).toNat d.digits
        else scientific d
  | .infinite negative => sign negative ++ "inf"
  | .notANumber => "nan"

end Binary64

end MetaDesk
