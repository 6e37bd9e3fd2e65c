import MetaDesk.Bytes.Base64
import MetaDesk.Numeric.Written
import MetaDesk.Yaml.Atom
import MetaDesk.Yaml.Tag

/-! # Reading atoms

What a scalar says under its tag.  Numbers may have underscores anywhere, whole ones also a base,
and both parts to the base of sixty. -/

namespace MetaDesk.Yaml

/-- Read a whole number that a scalar writes. -/
def integerAs (base : Nat) (t : Text) : Except Fault Int :=
  match readInteger base t with
  | .ok n => .ok n
  | .error .notANumber => .error (.badInteger base t)
  | .error (.tooLong e) => .error (.longInteger e)

/-- Read a real number that a scalar writes. -/
def realAs (t : Text) : Except Fault Binary64 :=
  match Binary64.read? t with
  | some x => .ok x
  | none => .error (.badReal t)

/-- The value of a whole number. -/
def integerOf (said : Text) : Except Fault Int := do
  let t := said.filter (· != '_')
  let negative := t.head? = some '-'
  let bare := unsign t
  let signed (n : Int) : Int := if negative then -n else n
  if t.isEmpty then throw .noDigits
  if bare = ['0'] then return 0
  match bare with
  | [] => throw .noDigits
  | '0' :: 'b' :: rest => return signed (← integerAs 2 rest)
  | '0' :: 'x' :: rest => return signed (← integerAs 16 rest)
  | '0' :: _ => return signed (← integerAs 8 bare)
  | _ =>
    if bare.contains ':' then
      let parts ← (Text.splitOn ':' bare).mapM (integerAs 10)
      return signed (parts.foldl (fun n part => 60 * n + part) 0)
    else return signed (← integerAs 10 bare)
where
  /-- The text without a sign. -/
  unsign : Text → Text
    | '-' :: t => t
    | '+' :: t => t
    | t => t

/-- The value of a number with a point. -/
def realOf (said : Text) : Except Fault Atom := do
  let t := Text.lower (said.filter (· != '_'))
  let negative := t.head? = some '-'
  let bare := integerOf.unsign t
  let signed (x : Binary64) : Binary64 := if negative then x.neg else x
  if t.isEmpty then throw .noDigits
  if bare = ".inf".toList then return .real (.infinite negative)
  if bare = ".nan".toList then return .undefined
  if bare.contains ':' then
    let parts ← (Text.splitOn ':' bare).mapM realAs
    return .real (signed (← sixtieths (.ofInt 0) 1 parts.reverse))
  return .real (signed (← realAs bare))
where
  /-- The sum of parts to the base of sixty, the last part first. -/
  sixtieths (sum : Binary64) (unit : Int) : List Binary64 → Except Fault Binary64
    | [] => .ok sum
    | part :: parts =>
      match Binary64.ofInt unit with
      | .finite s m e => sixtieths (sum.add (part.mul (.finite s m e))) (60 * unit) parts
      | _ => .error .vast

/-- The value of a word for true or false. -/
def truthOf (said : Text) : Except Fault Bool :=
  let t := Text.lower said
  if ["yes", "true", "on"].any fun w => t = w.toList then .ok true
  else if ["no", "false", "off"].any fun w => t = w.toList then .ok false
  else .error .badTruth

/-- A day that exists. -/
def dayOf (year month day : Nat) : Except Fault Day :=
  (Day.make year month day).mapError fun e => .badDate (.day e)

/-- The runs of digits in a text. -/
def digitRuns (t : Text) : List Text :=
  ((t.map fun c => if c.isDigit then c else ' ') |> Text.splitOn ' ').filter (!·.isEmpty)

/-- A point of time after its day: the parts of the clock, the digits of a second behind the point,
and what follows. -/
def momentOf (day : Day) (t : Text) : Except Fault Moment := do
  let isClock (c : Char) : Bool := c.isDigit || c = ':'
  let t := t.dropWhile (!·.isDigit)
  let clock := (digitRuns (t.takeWhile isClock)).map Text.numeralValue
  let rest := t.dropWhile isClock
  let fraction := if rest.head? = some '.' then (rest.drop 1).takeWhile Char.isDigit else []
  let rest := if rest.head? = some '.' then (rest.drop 1).dropWhile Char.isDigit else rest
  let zone := rest.dropWhile fun c => c = ' ' || c = '\t'
  let micro := Text.numeralValue ((fraction ++ List.replicate 6 '0').take 6)
  let numbers := (digitRuns zone).map Text.numeralValue
  let minutes : Int := (60 * numbers.headD 0 + (numbers.drop 1).headD 0 : Nat)
  let offset : Option Offset := match zone with
    | [] => none
    | '-' :: _ => some (.minutes (-minutes))
    | '+' :: _ => some (.minutes minutes)
    | _ => some .universal
  if 1440 ≤ minutes then
    throw (.badDate (.offset (if zone.head? = some '-' then -minutes else minutes)))
  let day ← dayOf day.year day.month day.day
  match clock with
  | [hour, minute, second] =>
    if 23 < hour then throw (.badDate .hour)
    if 59 < minute then throw (.badDate .minute)
    if 59 < second then throw (.badDate .second)
    return ⟨day, hour, minute, second, micro, offset⟩
  | _ => throw .noDate

/-- The value of a date or a point in time; a line feed at its end does not matter. -/
def timestampOf (said : Text) : Except Fault Atom := do
  let said := if said.getLast? = some '\n' then said.dropLast else said
  if !Tag.anyTimestamp.fits said then throw .noDate
  let isDay (c : Char) : Bool := c.isDigit || c = '-'
  match (digitRuns (said.takeWhile isDay)).map Text.numeralValue with
  | [year, month, day] =>
    match said.dropWhile isDay with
    | [] => return .date (← dayOf year month day)
    | rest => return .moment (← momentOf ⟨year, month, day⟩ rest)
  | _ => throw .noDate

/-- The atom that a scalar stands for. -/
def atomOf : Tag → Text → Except Fault Atom
  | .null, _ => .ok .null
  | .truth, t => (truthOf t).map .truth
  | .integer, t => (integerOf t).map .integer
  | .real, t => realOf t
  | .binary, t =>
    match Base64.decode? t with
    | some b => .ok (.bytes b)
    | none => .error (.malformed .tags)
  | .timestamp, t => timestampOf t
  | .text, t => .ok (.text t)
  | _, _ => .error (.malformed .tags)

end MetaDesk.Yaml
