import FrontMatter.Text.Digits
import FrontMatter.Value.Basic
import FrontMatter.Yaml.Fault

/-!
# `FrontMatter.Yaml.Scalar.Timestamp` — days and moments

A timestamp is a date, or a date and a time with an optional fraction and an optional offset. One
that names no day or no time has no value; the caller then keeps its text.

## Contents

* `Stamp`: the fields of a timestamp as written.
* `Stamp.ofChars?`: reading the fields.
* `Stamp.value`: the day or moment.
-/

namespace FrontMatter.Yaml

open Calendar (Date DateTime Offset)
open Text (digitsValue takeChar takeDigits)

/-! ## The written fields -/

/-- An offset as written: its text and its distance in seconds. -/
structure StampZone where
  text : List Char
  seconds : Int

/-- A time as written. -/
structure StampTime where
  hour : Nat
  minute : Nat
  second : Nat
  /-- The digits after the point, if there is one. -/
  fraction : List Char
  zone : Option StampZone

/-- A timestamp as written; `wide` tells whether month and day have two digits each. -/
structure Stamp where
  year : Nat
  month : Nat
  day : Nat
  wide : Bool
  time : Option StampTime

/-- Takes two digits, or one; the flag tells whether there were two. -/
def takeOneOrTwo (cs : List Char) : Option (Nat × Bool × List Char) :=
  match takeDigits 2 cs with
  | some (n, rest) => some (n, true, rest)
  | none => (takeDigits 1 cs).map fun r => (r.1, false, r.2)

/-- A space or a tab. -/
def isGap (c : Char) : Bool :=
  c == ' ' || c == '\t'

/-- An offset that takes up all characters: `Z`, or a sign, hours and optional minutes. -/
def StampZone.ofChars? (cs : List Char) : Option StampZone :=
  match cs with
  | ['Z'] => some ⟨cs, 0⟩
  | sign :: rest =>
    if sign == '+' || sign == '-' then do
      let (hours, _, rest) ← takeOneOrTwo rest
      let minutes ←
        if rest.isEmpty then some 0
        else do
          let (m, rest) ← takeDigits 2 (← takeChar ':' rest)
          if rest.isEmpty then some m else none
      let seconds : Int := (hours * 60 + minutes) * 60
      return ⟨cs, if sign == '-' then -seconds else seconds⟩
    else none
  | [] => none

/-- A time that takes up all characters. -/
def StampTime.ofChars? (cs : List Char) : Option StampTime := do
  let (hour, _, rest) ← takeOneOrTwo cs
  let (minute, rest) ← takeDigits 2 (← takeChar ':' rest)
  let (second, rest) ← takeDigits 2 (← takeChar ':' rest)
  let (fraction, rest) :=
    match takeChar '.' rest with
    | some rest => (rest.takeWhile Char.isDigit, rest.dropWhile Char.isDigit)
    | none => ([], rest)
  if rest.isEmpty then return ⟨hour, minute, second, fraction, none⟩
  else
    let zone ← StampZone.ofChars? (rest.dropWhile isGap)
    return ⟨hour, minute, second, fraction, some zone⟩

/-- The fields of a timestamp that takes up all characters. -/
def Stamp.ofChars? (cs : List Char) : Option Stamp := do
  let (year, rest) ← takeDigits 4 cs
  let (month, wideMonth, rest) ← takeOneOrTwo (← takeChar '-' rest)
  let (day, wideDay, rest) ← takeOneOrTwo (← takeChar '-' rest)
  let wide := wideMonth && wideDay
  match rest with
  | [] => return ⟨year, month, day, wide, none⟩
  | c :: after =>
    if c == 'T' || c == 't' then
      let t ← StampTime.ofChars? after
      return ⟨year, month, day, wide, some t⟩
    else if isGap c then
      let t ← StampTime.ofChars? (after.dropWhile isGap)
      return ⟨year, month, day, wide, some t⟩
    else none

/-- The characters without one line feed at the end. -/
def dropFinalBreak (cs : List Char) : List Char :=
  if cs.getLast? == some '\n' then cs.dropLast else cs

/-- The fields of a timestamp; one line feed may follow it. -/
def Stamp.ofText? (s : String) : Option Stamp :=
  Stamp.ofChars? (dropFinalBreak s.toList)

/-! ## The value -/

/-- The microseconds of a fraction: six digits, rounded up if the seventh is five or more. -/
def fractionMicros (ds : List Char) : Nat :=
  let six := ds.take 6
  let base := digitsValue (six ++ List.replicate (6 - six.length) '0')
  match ds.drop 6 with
  | d :: _ => if '4' < d then base + 1 else base
  | [] => base

/-- A full second of microseconds. -/
def microsPerSecond : Nat := 1000000

/-- The offset as a value, unless it is a day or more. -/
def StampZone.offset? (z : StampZone) : Option Offset :=
  Offset.ofSeconds? z.seconds (some (String.ofList z.text))

/-- The moment of a day, if the time and the offset exist. A fraction that rounds to a full second
goes to the next second; past the last day there is none. -/
def StampTime.value (d : Date) (t : StampTime) : Option (Except Refusal Scalar) := do
  let offset ← match t.zone with
    | none => some none
    | some z => z.offset?.map some
  let micros := fractionMicros t.fraction
  if micros < microsPerSecond then
    let m ← DateTime.ofParts? d t.hour t.minute t.second micros offset
    return .ok (.dateTime m)
  else
    let m ← DateTime.ofParts? d t.hour t.minute t.second 0 offset
    match m.nextSecond? with
    | some m => return .ok (.dateTime m)
    | none => return .error .lateDate

/-- The day or moment that a timestamp names, if it names one. -/
def Stamp.value (s : Stamp) : Option (Except Refusal Scalar) := do
  let d ← Date.ofParts? s.year s.month s.day
  match s.time with
  | none => return .ok (.date d)
  | some t => t.value d

end FrontMatter.Yaml
