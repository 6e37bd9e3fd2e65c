import MetaDesk.Text.Quoted

/-! # Days

A day of the calendar in which every fourth year has a day more, except for three out of four
centuries.  Years have four digits, and none is zero. -/

namespace MetaDesk

/-- A day. -/
structure Day where
  year : Nat
  month : Nat
  day : Nat
deriving DecidableEq, Repr, Inhabited

/-- Why something is no day. -/
inductive DayFault where
  | year (n : Nat)
  | month
  | day
  /-- A text does not write a day. -/
  | misspelt (t : Text)
deriving DecidableEq, Repr

/-- What is said about it. -/
def DayFault.message : DayFault → Text
  | .year n => "year " ++ Text.ofNat n ++ " is out of range"
  | .month => "month must be in 1..12"
  | .day => "day is out of range for month"
  | .misspelt t => "Invalid isoformat string: " ++ Text.quoted t

namespace Day

/-- The year has a day more. -/
def isLeap (year : Nat) : Bool := year % 4 = 0 && (year % 100 != 0 || year % 400 = 0)

/-- How many days a month has. -/
def monthLength (year month : Nat) : Nat :=
  if month = 2 then if isLeap year then 29 else 28
  else if month = 4 || month = 6 || month = 9 || month = 11 then 30
  else 31

/-- The number of a day, counted from the start of the calendar. -/
def number (d : Day) : Nat :=
  let before := d.year - 1
  let months := (List.range (d.month - 1)).foldl (fun n m => n + monthLength d.year (m + 1)) 0
  365 * before + before / 4 - before / 100 + before / 400 + months + d.day

/-- A day that exists. -/
def make (year month day : Nat) : Except DayFault Day :=
  if year = 0 || 9999 < year then .error (.year year)
  else if month = 0 || 12 < month then .error .month
  else if day = 0 || monthLength year month < day then .error .day
  else .ok ⟨year, month, day⟩

/-- So many days after the first one of a month. -/
def inMonth (year : Nat) : Nat → Nat → Nat → Day
  | 0, month, n => ⟨year, month, n + 1⟩
  | months + 1, month, n =>
    if n < monthLength year month then ⟨year, month, n + 1⟩
    else inMonth year months (month + 1) (n - monthLength year month)

/-- So many days after the first one of a year, or before it. -/
def inYear (year : Nat) (offset : Int) : Day :=
  let length : Nat := if isLeap year then 366 else 365
  if offset < 0 then ⟨year - 1, 12, (32 + offset).toNat⟩
  else if offset < length then inMonth year 12 1 offset.toNat
  else inMonth (year + 1) 12 1 (offset - length).toNat

/-- A number with zeros before it. -/
def padded (width n : Nat) : Text :=
  let digits := Text.ofNat n
  List.replicate (width - digits.length) '0' ++ digits

/-- The day as eight digits; an early year has fewer. -/
def compact (d : Day) : Text := Text.ofNat d.year ++ padded 2 d.month ++ padded 2 d.day

/-- The day with dashes. -/
def dashed (d : Day) : Text :=
  padded 4 d.year ++ "-" ++ padded 2 d.month ++ "-" ++ padded 2 d.day

end Day

end MetaDesk
