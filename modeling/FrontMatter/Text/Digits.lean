/-!
# `FrontMatter.Text.Digits` — decimal digits at the front of a text

## Contents

* `digitsValue`: the number that digits denote.
* `takeDigits`, `takeChar`: a fixed number of digits, and a given character, with the text after it.
-/

namespace FrontMatter.Text

/-- The number that decimal digits denote. -/
def digitsValue (ds : List Char) : Nat :=
  ds.foldl (fun n d => n * 10 + (d.toNat - '0'.toNat)) 0

/-- Takes exactly `n` digits of ASCII. -/
def takeDigits (n : Nat) (cs : List Char) : Option (Nat × List Char) :=
  let ds := cs.take n
  if ds.length == n && ds.all Char.isDigit then some (digitsValue ds, cs.drop n) else none

/-- Takes a given character. -/
def takeChar (x : Char) : List Char → Option (List Char)
  | c :: rest => if c == x then some rest else none
  | [] => none

end FrontMatter.Text
