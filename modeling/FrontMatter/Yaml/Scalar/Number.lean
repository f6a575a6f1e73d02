import FrontMatter.Decimal.Read
import FrontMatter.Text.Blank
import FrontMatter.Text.Case
import FrontMatter.Text.DecimalDigit
import FrontMatter.Value.Text
import FrontMatter.Yaml.Fault
import FrontMatter.Yaml.Token.Basic

/-!
# `FrontMatter.Yaml.Scalar.Number` — the values of numbers

Underscores are dropped and a sign is split off; what is left is read as a whole number in some
base, or as a decimal number. A tag may ask for the value of any text, so the text may also have
blanks around it, a second sign, and digits of other scripts.

## Contents

* `plainDigits`: blanks and digits of all scripts as ASCII.
* `wholeNumber`: a text as a whole number in a base.
* `intValue`: the value of a scalar that is tagged as a whole number.
* `doubleOf`, `floatValue`: the same for doubles.
-/

namespace FrontMatter.Yaml

open Decimal (infinity splitSign)
open Text (decimalValue? isBlank)

/-! ## Characters -/

/-- A blank of ASCII around a number. -/
def isAsciiBlank (c : Char) : Bool :=
  c == ' ' || (0x09 ≤ c.toNat && c.toNat ≤ 0x0D)

/-- A text of ASCII as it is. In any other text, blanks outside ASCII become spaces and digits those
of ASCII, and what is neither becomes `?`. -/
def plainDigits (cs : List Char) : List Char :=
  if cs.all fun c => c.toNat < 0x80 then cs
  else
    cs.map fun c =>
      if c.toNat < 0x7F then c
      else if isBlank c then ' '
      else
        match decimalValue? c with
        | some d => Char.ofNat ('0'.toNat + d)
        | none => '?'

/-- The text of a number without the blanks around it. -/
def numberChars (s : String) : List Char :=
  Text.trim isAsciiBlank (plainDigits s.toList)

/-! ## Whole numbers -/

/-- The value of a digit in bases up to sixteen. -/
def digitIn? (base : Nat) (c : Char) : Option Nat :=
  if isHexDigit c && hexValue c < base then some (hexValue c) else none

/-- The digits after the mark of a base, `0b`, `0o` or `0x`, if it is there. -/
def dropBaseMark (base : Nat) : List Char → List Char
  | '0' :: x :: rest =>
    if (base == 2 && (x == 'b' || x == 'B')) || (base == 8 && (x == 'o' || x == 'O'))
        || (base == 16 && (x == 'x' || x == 'X')) then rest
    else '0' :: x :: rest
  | cs => cs

/-- A text as a whole number: sign, mark of the base, digits. In base ten the number of digits is
limited. -/
def wholeNumber (base : Nat) (s : String) : Except Refusal Int :=
  let (negative, body) := splitSign (numberChars s)
  let body := dropBaseMark base body
  let digits := body.map (digitIn? base)
  let count := (digits.takeWhile Option.isSome).length
  if base == 10 && maxDigits < count then .error (.longInt count)
  else if count == 0 || count != body.length then .error (.badInt base s)
  else
    let n := digits.foldl (fun n d => n * base + d.getD 0) 0
    .ok (if negative then -(n : Int) else n)

/-- The value of a number in base sixty, from its parts. -/
def sexagesimal (parts : List Int) : Int :=
  parts.foldl (fun n d => n * 60 + d) 0

/-- A text between its colons. -/
def colonParts (cs : List Char) : List String :=
  (cs.splitOn ':').map String.ofList

/-- The value of a whole number without sign. -/
def intBody (v : Version) (cs : List Char) : Except Refusal Int :=
  match cs with
  | ['0'] => .ok 0
  | '0' :: 'b' :: rest => wholeNumber 2 (String.ofList rest)
  | '0' :: 'x' :: rest => wholeNumber 16 (String.ofList rest)
  | '0' :: 'o' :: rest => wholeNumber 8 (String.ofList rest)
  | cs =>
    if v.isOld then
      match cs with
      | [] => .error .emptyNumber
      | '0' :: _ => wholeNumber 8 (String.ofList cs)
      | cs =>
        if cs.contains ':' then (colonParts cs).mapM (wholeNumber 10) |>.map sexagesimal
        else wholeNumber 10 (String.ofList cs)
    else wholeNumber 10 (String.ofList cs)

/-- The value of a scalar that is a whole number. -/
def intValue (v : Version) (text : String) : Except Refusal Int := do
  let cs := text.toList.filter (· != '_')
  if cs.isEmpty then throw .emptyNumber
  let (negative, body) := splitSign cs
  let n ← intBody v body
  return if negative then -n else n

/-! ## Doubles -/

/-- A text as a double: a word, or a decimal number, with an optional sign. -/
def doubleOf (s : String) : Except Refusal Float :=
  match Decimal.readDouble? (numberChars s) with
  | some x => .ok x
  | none => .error (.badFloat s)

/-- The value of a number in base sixty with a fraction, from its parts, the last one first;
`weight` is that of the first of them. It has none if a weight is outside the range of doubles. -/
def sexagesimalDouble (weight : Nat) (total : Float) : List Float → Except Refusal Float
  | [] => .ok total
  | d :: ds =>
    let w := Decimal.nearest weight 1
    if w.isInf then .error .hugeWeight else sexagesimalDouble (weight * 60) (total + d * w) ds

/-- What a scalar that is a double is read as: the value that is no number when it is written as
such, which is one value, or a double. -/
inductive FloatValue
  | notANumber
  | double (x : Float)

/-- The value of a double without sign. -/
def floatBody (v : Version) (cs : List Char) : Except Refusal FloatValue := do
  let s := String.ofList cs
  if s == ".inf" then return .double infinity
  if s == ".nan" then return .notANumber
  if v.isOld && cs.contains ':' then
    let parts ← (colonParts cs).mapM doubleOf
    return .double (← sexagesimalDouble 1 0 parts.reverse)
  if v.isOld && 2 < (cs.splitOn 'e').length then throw (.manyExponents (cs.splitOn 'e').length)
  return .double (← doubleOf s)

/-- The value of a scalar that is a double. -/
def floatValue (v : Version) (text : String) : Except Refusal FloatValue := do
  let cs := (Text.lower (String.ofList (text.toList.filter (· != '_')))).toList
  if cs.isEmpty then throw .emptyNumber
  let (negative, body) := splitSign cs
  match ← floatBody v body with
  | .notANumber => return .notANumber
  | .double x => return .double (if negative then -x else x)

end FrontMatter.Yaml
