import FrontMatter.Text.Blank
import FrontMatter.Text.Digits

/-!
# `FrontMatter.Text.Integer` — whole numbers as people type them

In its plain form a number is an optional minus, and zero or digits that do not start with one.
A text in any other form is tidied first: the white space around it goes, and a plus, zeros in
front, a fraction of zeros, and underscores within it.

## Contents

* `readPlainInt`: the plain form.
* `tidyInt?`: a text in another form, tidied.
* `readInt`: the number that a text denotes.
-/

namespace FrontMatter.Text

/-- Why a text denotes no number: it has no form of one, or its number is too long. -/
inductive IntFault
  | unreadable
  | tooLong
  deriving Repr, DecidableEq

/-! ## The plain form -/

/-- A number in its plain form has at most this many characters. -/
def maxIntLength : Nat := 4300

/-- Reads a number in its plain form. Digits that go on for too long are a fault of their own,
whatever follows them. -/
def readPlainInt (cs : List Char) : Except IntFault Int :=
  let negative := cs.head? == some '-'
  let body := if negative then cs.drop 1 else cs
  let digits := body.takeWhile Char.isDigit
  match digits with
  | [] => .error .unreadable
  | '0' :: _ => if body == ['0'] then .ok 0 else .error .unreadable
  | _ =>
    if maxIntLength < digits.length + (if negative then 1 else 0) then .error .tooLong
    else if digits.length != body.length then .error .unreadable
    else
      let n : Int := digitsValue digits
      .ok (if negative then -n else n)

/-! ## Other forms -/

/-- White space: the blanks without the four separators. -/
def isWhiteSpace (c : Char) : Bool :=
  isBlank c && !(0x1C ≤ c.toNat && c.toNat ≤ 0x1F)

/-- Drops a plus, which no minus may follow. -/
def dropPlus? : List Char → Option (List Char)
  | '+' :: '-' :: _ => none
  | '+' :: rest => some rest
  | cs => some cs

/-- Drops further zeros, and underscores among them, up to a digit or a minus. The character before
a point stays, and so does the last one of all. -/
def dropZerosAfter (last : Char) : List Char → Option (List Char)
  | [] => some [last]
  | c :: rest =>
    if c == '0' || c == '_' then dropZerosAfter c rest
    else if c.isDigit || c == '-' then some (c :: rest)
    else if c == '.' then some (last :: c :: rest)
    else none

/-- Drops the zeros in front; none if the text starts with neither a digit nor a minus. -/
def dropZeros? : List Char → Option (List Char)
  | [] => none
  | c :: rest =>
    if c == '0' then dropZerosAfter c rest
    else if c.isDigit || c == '-' then some (c :: rest)
    else none

/-- Drops the first point if zeros follow it and nothing else. -/
def dropZeroFraction (cs : List Char) : List Char :=
  match cs.dropWhile (· != '.') with
  | _ :: z :: zeros => if (z :: zeros).all (· == '0') then cs.takeWhile (· != '.') else cs
  | _ => cs

/-- Drops the underscores if each of them stands alone, and none at the start or the end. -/
def dropUnderscores (cs : List Char) : List Char :=
  let groups := cs.splitOn '_'
  if groups.all fun g => !g.isEmpty then groups.flatten else cs

/-- A text without what the plain form does not have. -/
def tidyInt? (cs : List Char) : Option (List Char) := do
  let cs ← dropPlus? (trim isWhiteSpace cs)
  let cs ← dropZeros? cs
  return dropUnderscores (dropZeroFraction cs)

/-! ## Any form -/

/-- The number that a text denotes. Only a text in its plain form is turned down for its length. -/
def readInt (s : String) : Except IntFault Int :=
  match readPlainInt s.toList with
  | .error .unreadable =>
    match (tidyInt? s.toList).map readPlainInt with
    | some (.ok n) => .ok n
    | _ => .error .unreadable
  | r => r

end FrontMatter.Text
