/-!
# Dates and timestamps

A `Date` is a day of the proleptic Gregorian calendar, a `Timestamp` a date with a time of day
to the nanosecond and without a zone; both carry the proof that they exist.  In the last
second of a minute the nanoseconds may run on to a second second, which is a leap second and
is written as second 60.

`Date.text` writes years from 0 to 9999 with four digits and others with a sign;
`Timestamp.text` writes the fraction of the second with the fewest of 3, 6 or 9 digits that
are exact, and not at all when it is zero.
-/

namespace SnowflakeSql

/-- The number with zeros before it up to the width. -/
def padded (width n : Nat) : String :=
  let digits := Nat.toDigits 10 n
  String.ofList (List.replicate (width - digits.length) '0' ++ digits)

/-- Whether February has 29 days. -/
def isLeapYear (year : Int) : Bool :=
  decide (year % 4 = 0) && (decide (year % 100 ≠ 0) || decide (year % 400 = 0))

/-- The number of days of a month, none if there is no such month. -/
def daysInMonth (year : Int) (month : Nat) : Nat :=
  match month with
  | 2 => if isLeapYear year then 29 else 28
  | 4 | 6 | 9 | 11 => 30
  | 1 | 3 | 5 | 7 | 8 | 10 | 12 => 31
  | _ => 0

/-- A day of the calendar, in the years that are kept. -/
structure Date where
  year : Int
  month : Nat
  day : Nat
  year_mem : -262143 ≤ year ∧ year ≤ 262142
  day_mem : 1 ≤ day ∧ day ≤ daysInMonth year month
  deriving DecidableEq

namespace Date

/-- The date with the given parts, if there is one. -/
def ofParts? (year : Int) (month day : Nat) : Option Date :=
  if hy : -262143 ≤ year ∧ year ≤ 262142 then
    if hd : 1 ≤ day ∧ day ≤ daysInMonth year month then some ⟨year, month, day, hy, hd⟩ else none
  else none

/-- A year: four digits from 0 to 9999, otherwise a sign and at least four digits. -/
def yearText (year : Int) : String :=
  if 0 ≤ year ∧ year ≤ 9999 then padded 4 year.natAbs
  else (if year < 0 then "-" else "+") ++ padded 4 year.natAbs

/-- Year, month and day with hyphens between. -/
def text (d : Date) : String :=
  yearText d.year ++ "-" ++ padded 2 d.month ++ "-" ++ padded 2 d.day

theorem ofParts?_parts (d : Date) : ofParts? d.year d.month d.day = some d := by
  simp [ofParts?, d.year_mem, d.day_mem]

theorem ofParts?_eq_none_iff (year : Int) (month day : Nat) :
    ofParts? year month day = none ↔
      ¬((-262143 ≤ year ∧ year ≤ 262142) ∧ 1 ≤ day ∧ day ≤ daysInMonth year month) := by
  unfold ofParts?
  split
  · next hy => split <;> simp_all
  · next hy => exact ⟨fun _ h => hy h.1, fun _ => rfl⟩

end Date

/-- A date and a time of day, to the nanosecond. -/
structure Timestamp where
  date : Date
  hour : Nat
  minute : Nat
  second : Nat
  nano : Nat
  time_mem : hour < 24 ∧ minute < 60 ∧ second < 60
  nano_mem : nano < 1000000000 ∨ nano < 2000000000 ∧ second = 59
  deriving DecidableEq

namespace Timestamp

/-- The timestamp with the given parts, if there is one. -/
def ofParts? (date : Date) (hour minute second nano : Nat) : Option Timestamp :=
  if ht : hour < 24 ∧ minute < 60 ∧ second < 60 then
    if hn : nano < 1000000000 ∨ nano < 2000000000 ∧ second = 59 then
      some ⟨date, hour, minute, second, nano, ht, hn⟩
    else none
  else none

/-- The second as it is shown: a leap second is second 60. -/
def shownSecond (t : Timestamp) : Nat := t.second + t.nano / 1000000000

/-- The nanoseconds within the shown second. -/
def shownNano (t : Timestamp) : Nat := t.nano % 1000000000

/-- A fraction of a second: nothing, or a point and 3, 6 or 9 digits. -/
def fractionText (nano : Nat) : String :=
  if nano = 0 then ""
  else if nano % 1000000 = 0 then "." ++ padded 3 (nano / 1000000)
  else if nano % 1000 = 0 then "." ++ padded 6 (nano / 1000)
  else "." ++ padded 9 nano

/-- Hours, minutes and seconds with colons between, and the fraction. -/
def clockText (t : Timestamp) : String :=
  padded 2 t.hour ++ ":" ++ padded 2 t.minute ++ ":" ++ padded 2 t.shownSecond ++
    fractionText t.shownNano

/-- Date and time of day, with what is put between them. -/
def textWith (separator : String) (t : Timestamp) : String :=
  t.date.text ++ separator ++ t.clockText

/-- Date and time of day with a space between. -/
def text (t : Timestamp) : String := t.textWith " "

theorem ofParts?_parts (t : Timestamp) :
    ofParts? t.date t.hour t.minute t.second t.nano = some t := by
  simp [ofParts?, t.time_mem, t.nano_mem]

end Timestamp

example : (Date.ofParts? 2023 2 29).isNone = true := by decide

example : (Date.ofParts? (-1) 12 31).map Date.text = some "-0001-12-31" := by decide +kernel

end SnowflakeSql
