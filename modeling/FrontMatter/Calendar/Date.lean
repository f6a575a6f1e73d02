/-!
# `FrontMatter.Calendar.Date` — days of the calendar

A date is a day of the proleptic Gregorian calendar in the years 1 to 9999; the proof that it is one
is part of it.

## Contents

* `isLeap`, `daysInMonth`, `isDay`: the calendar.
* `Date`, `Date.ofParts?`: a day, and the day that three numbers name.
* `Date.next?`, `Date.ordinal`: the day after, and the count of days from the first one.
* `padded`, `Date.text`: the written form `YYYY-MM-DD`.
-/

namespace FrontMatter.Calendar

/-! ## The calendar -/

/-- Every fourth year is a leap year, but of the centuries only every fourth. -/
def isLeap (year : Nat) : Bool :=
  year % 4 == 0 && (year % 100 != 0 || year % 400 == 0)

/-- The length of a month. -/
def daysInMonth (year month : Nat) : Nat :=
  if month == 2 then (if isLeap year then 29 else 28)
  else if month == 4 || month == 6 || month == 9 || month == 11 then 30
  else 31

/-- Whether three numbers name a day of the years 1 to 9999. -/
def isDay (year month day : Nat) : Bool :=
  1 ≤ year && year ≤ 9999 && 1 ≤ month && month ≤ 12 && 1 ≤ day && day ≤ daysInMonth year month

/-- A day of the calendar. -/
structure Date where
  year : Nat
  month : Nat
  day : Nat
  valid : isDay year month day = true
  deriving DecidableEq

namespace Date

/-- The day that three numbers name, if they name one. -/
def ofParts? (year month day : Nat) : Option Date :=
  if h : isDay year month day = true then some ⟨year, month, day, h⟩ else none

/-- Three numbers name a day exactly when they are one. -/
theorem isSome_ofParts? (y m d : Nat) : (ofParts? y m d).isSome = isDay y m d := by
  unfold ofParts?
  split
  · next h => simp [h]
  · next h => simp [h]

/-- The day after; there is none after the last day of the year 9999. -/
def next? (d : Date) : Option Date :=
  ofParts? d.year d.month (d.day + 1)
    <|> ofParts? d.year (d.month + 1) 1
    <|> ofParts? (d.year + 1) 1 1

/-- The number of days before the year. -/
def daysBeforeYear (year : Nat) : Nat :=
  let y := year - 1
  y * 365 + y / 4 - y / 100 + y / 400

/-- The number of days before the month within its year. -/
def daysBeforeMonth (year month : Nat) : Nat :=
  (List.range (month - 1)).foldl (fun n i => n + daysInMonth year (i + 1)) 0

/-- The number of the day, counting from 1 for the first day of the year 1. -/
def ordinal (d : Date) : Nat :=
  daysBeforeYear d.year + daysBeforeMonth d.year d.month + d.day

end Date

/-! ## The written form -/

/-- A number in decimal, filled up with zeros to `width` digits. -/
def padded (width n : Nat) : String :=
  let ds := Nat.toDigits 10 n
  String.ofList (List.replicate (width - ds.length) '0' ++ ds)

/-- A date as `YYYY-MM-DD`. -/
def Date.text (d : Date) : String :=
  padded 4 d.year ++ "-" ++ padded 2 d.month ++ "-" ++ padded 2 d.day

end FrontMatter.Calendar
