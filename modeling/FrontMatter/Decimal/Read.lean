import FrontMatter.Decimal.Binary64

/-!
# `FrontMatter.Decimal.Read` — doubles from text

A double is written as a decimal number, as `inf`, `infinity` or `nan`, with an optional sign. A
decimal number has digits with an optional point, and an optional exponent.

## Contents

* `notANumber`: the double that is no number.
* `splitSign`: the sign before a number.
* `decimalNumber?`: the double nearest to a decimal number without sign.
* `readDouble?`: any double.
-/

namespace FrontMatter.Decimal

/-- The value that is no number. -/
def notANumber : Float := Float.ofBits 0x7FF8000000000000

/-- Splits off a sign; the flag tells whether it is a minus. -/
def splitSign : List Char → Bool × List Char
  | '-' :: rest => (true, rest)
  | '+' :: rest => (false, rest)
  | cs => (false, cs)

/-- The exponent that follows the digits of a decimal number: nothing, or `e` and a whole number. -/
def decimalExponent? : List Char → Option Int
  | [] => some 0
  | c :: rest =>
    let (negative, ds) := splitSign rest
    if (c == 'e' || c == 'E') && !ds.isEmpty && ds.all Char.isDigit then
      let n : Int := ds.foldl (fun n d => n * 10 + (d.toNat - '0'.toNat)) 0
      some (if negative then -n else n)
    else none

/-- A decimal number without sign. -/
def decimalNumber? (cs : List Char) : Option Float := do
  let before := cs.takeWhile Char.isDigit
  let rest := cs.dropWhile Char.isDigit
  let (after, rest) :=
    match rest with
    | '.' :: more => (more.takeWhile Char.isDigit, more.dropWhile Char.isDigit)
    | rest => ([], rest)
  if before.isEmpty && after.isEmpty then none
  let e ← decimalExponent? rest
  let ds := (before ++ after).map fun d => d.toNat - '0'.toNat
  return ofDecimal ds (e - after.length)

/-- A double, with its sign. -/
def readDouble? (cs : List Char) : Option Float :=
  let (negative, body) := splitSign cs
  let word := String.ofList (body.map Char.toLower)
  let value? :=
    if word == "inf" || word == "infinity" then some infinity
    else if word == "nan" then some notANumber
    else decimalNumber? body
  value?.map fun x => if negative then -x else x

end FrontMatter.Decimal
