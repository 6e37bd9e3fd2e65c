import MetaDesk.Bytes.Utf8
import MetaDesk.Calendar
import MetaDesk.Text.Digit

/-! # Written days

A day is written as its year, month and day, or as its year, the week of that year and the day of
that week, both with dashes between the parts or without any.  A week belongs to the year that has
its Thursday.  The length in bytes tells whether a text can write a day at all, and what follows a
day within that length is passed over. -/

namespace MetaDesk.Day

/-- How many days the first day of a year is after a Monday. -/
def sinceMonday (year : Nat) : Nat := ((Day.mk year 1 1).number + 6) % 7

/-- How many weeks a year has. -/
def weeks (year : Nat) : Nat :=
  if sinceMonday year = 3 || (sinceMonday year = 2 && isLeap year) then 53 else 52

/-- How many days the first Monday of the weeks of a year is after its first day. -/
def firstMonday (year : Nat) : Int :=
  if 3 < sinceMonday year then 7 - (sinceMonday year : Int) else -(sinceMonday year : Int)

/-- Read a number of so many digits, and what follows it. -/
def digits? (count : Nat) (t : Text) : Option (Nat × Text) :=
  let run := t.take count
  if run.length = count && run.all Char.isDigit then some (Text.numeralValue run, t.drop count)
  else none

/-- What follows a dash, if there are dashes between the parts. -/
def dash? (dashed : Bool) (t : Text) : Option Text := if dashed then Text.after? "-" t else some t

/-- The day of a week of a year. -/
def ofWeek (year week day : Nat) : Option (Except DayFault Day) :=
  if year = 0 then
    if 1 ≤ week && week ≤ 52 && 1 ≤ day && day ≤ 7 then some (.error .month) else none
  else if week = 0 || weeks year < week || day = 0 || 7 < day then none
  else
    let d := inYear year (firstMonday year + 7 * ((week : Int) - 1) + ((day : Int) - 1))
    some (make d.year d.month d.day)

/-- The day that parts write, without a look at their length. -/
def parts? (t : Text) : Option (Except DayFault Day) := do
  let (year, t) ← digits? 4 t
  let dashed := t.head? = some '-'
  let t ← dash? dashed t
  match t with
  | 'W' :: t =>
    let (week, t) ← digits? 2 t
    if t.isEmpty then ofWeek year week 1
    else
      let (day, _) ← digits? 1 (← dash? dashed t)
      ofWeek year week day
  | _ =>
    let (month, t) ← digits? 2 t
    let (day, _) ← digits? 2 (← dash? dashed t)
    return make year month day

/-- Read a day. -/
def read (t : Text) : Except DayFault Day :=
  let length := (Utf8.encode t).length
  if length = 7 || length = 8 || length = 10 then (parts? t).getD (.error (.misspelt t))
  else .error (.misspelt t)

end MetaDesk.Day
