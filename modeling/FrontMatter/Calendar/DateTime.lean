import FrontMatter.Calendar.Date
import FrontMatter.Text.Quoted

/-!
# `FrontMatter.Calendar.DateTime` — moments of a day, with or without an offset

## Contents

* `Offset`: a distance from universal time, with the name it was written under.
* `DateTime`, `DateTime.ofParts?`: a moment to the microsecond.
* `DateTime.nextSecond?`, `DateTime.same`: one second later, and equality of moments.
* `DateTime.text`, `DateTime.constructorText`, `Date.constructorText`: written forms.
-/

namespace FrontMatter.Calendar

/-! ## Offsets -/

/-- A distance from universal time, in seconds, and the name it was written under, if any. -/
structure Offset where
  seconds : Int
  name : Option String
  deriving Repr, DecidableEq

/-- The seconds of a day. -/
def secondsPerDay : Nat := 86400

/-- An offset of less than a day. -/
def Offset.ofSeconds? (seconds : Int) (name : Option String) : Option Offset :=
  if seconds.natAbs < secondsPerDay then some ⟨seconds, name⟩ else none

/-- An offset as `+HH:MM`, with seconds only if there are any. -/
def Offset.text (o : Offset) : String :=
  let n := o.seconds.natAbs
  (if o.seconds < 0 then "-" else "+") ++ padded 2 (n / 3600) ++ ":" ++ padded 2 (n / 60 % 60)
    ++ (if n % 60 == 0 then "" else ":" ++ padded 2 (n % 60))

/-- A signed number of seconds as whole days and the seconds left over. -/
def deltaText (seconds : Int) : String :=
  let days := Int.fdiv seconds secondsPerDay
  let left := Int.fmod seconds secondsPerDay
  let parts := (if days == 0 then [] else ["days=" ++ toString days])
    ++ (if left == 0 then [] else ["seconds=" ++ toString left])
  "datetime.timedelta(" ++ (if parts.isEmpty then "0" else String.intercalate ", " parts) ++ ")"

/-- An offset as the expression that makes it. -/
def Offset.constructorText (o : Offset) : String :=
  match o.name with
  | some n => "datetime.timezone(" ++ deltaText o.seconds ++ ", " ++ Text.quote n ++ ")"
  | none =>
    if o.seconds == 0 then "datetime.timezone.utc"
    else "datetime.timezone(" ++ deltaText o.seconds ++ ")"

/-! ## Moments -/

/-- Whether four numbers name a time of day. -/
def isTime (hour minute second micro : Nat) : Bool :=
  hour < 24 && minute < 60 && second < 60 && micro < 1000000

/-- A moment, to the microsecond. -/
structure DateTime where
  date : Date
  hour : Nat
  minute : Nat
  second : Nat
  micro : Nat
  offset : Option Offset
  valid : isTime hour minute second micro = true
  deriving DecidableEq

namespace DateTime

/-- The moment of a day at a time, if there is such a time. -/
def ofParts? (date : Date) (hour minute second micro : Nat) (offset : Option Offset) :
    Option DateTime :=
  if h : isTime hour minute second micro = true then
    some ⟨date, hour, minute, second, micro, offset, h⟩
  else none

/-- One second later, unless that is past the last day. -/
def nextSecond? (t : DateTime) : Option DateTime :=
  ofParts? t.date t.hour t.minute (t.second + 1) t.micro t.offset
    <|> ofParts? t.date t.hour (t.minute + 1) 0 t.micro t.offset
    <|> ofParts? t.date (t.hour + 1) 0 0 t.micro t.offset
    <|> t.date.next?.bind fun d => ofParts? d 0 0 0 t.micro t.offset

/-- The microseconds from the first day to the moment, read as local time. -/
def localMicros (t : DateTime) : Int :=
  ((t.date.ordinal * 24 + t.hour) * 60 + t.minute) * 60 + t.second |> fun (s : Nat) =>
    (s : Int) * 1000000 + t.micro

/-- Whether two moments are the same: both without offset, at the same local time; or both with one,
at the same universal time. -/
def same (s t : DateTime) : Bool :=
  match s.offset, t.offset with
  | none, none => s.localMicros == t.localMicros
  | some a, some b => s.localMicros - a.seconds * 1000000 == t.localMicros - b.seconds * 1000000
  | _, _ => false

/-- A moment as date, separator, time and offset; microseconds are written if there are any. -/
def text (separator : String) (t : DateTime) : String :=
  t.date.text ++ separator
    ++ padded 2 t.hour ++ ":" ++ padded 2 t.minute ++ ":" ++ padded 2 t.second
    ++ (if t.micro == 0 then "" else "." ++ padded 6 t.micro)
    ++ (t.offset.map Offset.text).getD ""

end DateTime

/-- A date as the expression that makes it. -/
def Date.constructorText (d : Date) : String :=
  "datetime.date(" ++ toString d.year ++ ", " ++ toString d.month ++ ", " ++ toString d.day ++ ")"

/-- A moment as the expression that makes it; seconds and microseconds are left out from the end
while they are zero. -/
def DateTime.constructorText (t : DateTime) : String :=
  let fields := [t.date.year, t.date.month, t.date.day, t.hour, t.minute]
    ++ (if t.second == 0 && t.micro == 0 then [] else [t.second])
    ++ (if t.micro == 0 then [] else [t.micro])
  "datetime.datetime(" ++ String.intercalate ", " (fields.map toString)
    ++ (t.offset.map fun o => ", tzinfo=" ++ o.constructorText).getD "" ++ ")"

end FrontMatter.Calendar
