import FrontMatter.Calendar.DateTime
import FrontMatter.Text.Digits

/-!
# `FrontMatter.Calendar.Read` — days and moments from their written form

The written form of a day is `YYYY-MM-DD`; that of a moment adds a separator, a time with an
optional fraction of six digits, and an optional offset.

## Contents

* `takeDate`, `Date.ofText?`: a day.
* `Offset.ofChars?`, `takeTime`: the offset and the time of a moment.
* `DateTime.ofText?`: a moment.
-/

namespace FrontMatter.Calendar

open Text (takeChar takeDigits)

/-- Takes the three numbers of a written day, whether they name one or not. -/
def takeDate (cs : List Char) : Option ((Nat × Nat × Nat) × List Char) := do
  let (year, rest) ← takeDigits 4 cs
  let (month, rest) ← takeDigits 2 (← takeChar '-' rest)
  let (day, rest) ← takeDigits 2 (← takeChar '-' rest)
  return ((year, month, day), rest)

/-- The day that a text of the form `YYYY-MM-DD` names, if it names one. -/
def Date.ofText? (s : String) : Option Date :=
  match takeDate s.toList with
  | some ((year, month, day), []) => Date.ofParts? year month day
  | _ => none

/-- The offset that a text names: a sign, hours, minutes and optional seconds. -/
def Offset.ofChars? : List Char → Option Offset
  | [] => none
  | sign :: rest => do
    let (hours, rest) ← takeDigits 2 rest
    let (minutes, rest) ← takeDigits 2 (← takeChar ':' rest)
    let (seconds, rest) ← if rest.isEmpty then some (0, []) else takeDigits 2 (← takeChar ':' rest)
    let n : Int := (hours * 60 + minutes) * 60 + seconds
    if rest.isEmpty && (sign == '+' || sign == '-') then
      Offset.ofSeconds? (if sign == '-' then -n else n) none
    else none

/-- Takes hour, minute, second and microseconds. -/
def takeTime (cs : List Char) : Option ((Nat × Nat × Nat × Nat) × List Char) := do
  let (hour, rest) ← takeDigits 2 cs
  let (minute, rest) ← takeDigits 2 (← takeChar ':' rest)
  let (second, rest) ← takeDigits 2 (← takeChar ':' rest)
  match takeChar '.' rest with
  | some rest => (takeDigits 6 rest).map fun r => ((hour, minute, second, r.1), r.2)
  | none => return ((hour, minute, second, 0), rest)

/-- The moment that a text of the written form names, if it names one. -/
def DateTime.ofText? (separator : Char) (s : String) : Option DateTime := do
  let ((year, month, day), rest) ← takeDate s.toList
  let date ← Date.ofParts? year month day
  let ((hour, minute, second, micro), rest) ← takeTime (← takeChar separator rest)
  let offset ← if rest.isEmpty then some none else (Offset.ofChars? rest).map some
  DateTime.ofParts? date hour minute second micro offset

end FrontMatter.Calendar
