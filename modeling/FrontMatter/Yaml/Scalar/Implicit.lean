import FrontMatter.Yaml.Scalar.Timestamp
import FrontMatter.Yaml.Tag

/-!
# `FrontMatter.Yaml.Scalar.Implicit` — the type of a scalar without a tag

A scalar without quotes and without a tag is a truth value, a number, null, a timestamp or a special
key if it is written like one, and a text otherwise. The forms of numbers and truth values depend on
the version. The type is decided by form alone; the value may still be refused.

## Contents

* `isBoolWord`, `isNullWord`: the words.
* `isFloatForm`, `isIntForm`, `isTimestampForm`: the forms of numbers and timestamps.
* `Tag.ofPlain`: the type of a scalar.
-/

namespace FrontMatter.Yaml

/-! ## Words -/

/-- The words for truth values; version 1.1 has more of them. -/
def boolWords (v : Version) : List String :=
  ["true", "True", "TRUE", "false", "False", "FALSE"]
    ++ (if v.isOld then
      ["y", "Y", "yes", "Yes", "YES", "n", "N", "no", "No", "NO",
       "on", "On", "ON", "off", "Off", "OFF"]
      else [])

/-- The words for null, the empty text among them. -/
def nullWords : List String :=
  ["", "~", "null", "Null", "NULL"]

/-! ## Numbers -/

/-- A decimal digit or the underscore that may stand between digits. -/
def isDigitOrLine (c : Char) : Bool :=
  c.isDigit || c == '_'

/-- The characters after a sign, if there is one. -/
def dropSign : List Char → List Char
  | '+' :: rest => rest
  | '-' :: rest => rest
  | cs => cs

/-- Whether the first character is a sign. -/
def hasSign (cs : List Char) : Bool :=
  (dropSign cs).length != cs.length

/-- A nonempty run of a class, and nothing else. -/
def isRun (p : Char → Bool) (cs : List Char) : Bool :=
  !cs.isEmpty && cs.all p

/-- An exponent: `e`, a sign that may be missing unless it is required, and digits. -/
def isExponent (signRequired : Bool) : List Char → Bool
  | c :: rest => (c == 'e' || c == 'E') && (!signRequired || hasSign rest)
      && isRun Char.isDigit (dropSign rest)
  | [] => false

/-- An exponent or nothing. -/
def isOptionalExponent (signRequired : Bool) (cs : List Char) : Bool :=
  cs.isEmpty || isExponent signRequired cs

/-- What follows the digits at the start, if the first character is a digit. -/
def afterDigits? : List Char → Option (List Char)
  | c :: rest => if c.isDigit then some (rest.dropWhile isDigitOrLine) else none
  | [] => none

/-- What follows the groups of base sixty, `:` and a number below sixty each; `fuel` bounds their
number. At least one is there if `some`. -/
def afterGroups? : Nat → List Char → Option (List Char)
  | 0, _ => none
  | fuel + 1, ':' :: a :: rest =>
    let after? :=
      match rest with
      | b :: more => if a.isDigit && a ≤ '5' && b.isDigit then some more
        else if a.isDigit then some rest else none
      | [] => if a.isDigit then some [] else none
    after?.map fun after => (afterGroups? fuel after).getD after
  | _, _ => none

/-- Digits and groups of base sixty, then `tail`. -/
def isSexagesimal (tail : List Char → Bool) (cs : List Char) : Bool :=
  match afterDigits? cs with
  | some rest => ((afterGroups? rest.length rest).map tail).getD false
  | none => false

/-- A point and digits after it, none or more. -/
def isPointTail : List Char → Bool
  | '.' :: rest => rest.all isDigitOrLine
  | _ => false

/-- A number with digits before the point or exponent, without sign. -/
def isDigitFloat (cs : List Char) : Bool :=
  match afterDigits? cs with
  | some ('.' :: rest) => isOptionalExponent false (rest.dropWhile isDigitOrLine)
  | some rest => isExponent false rest
  | none => false

/-- A number that starts with the point, without sign. -/
def isPointFloat : List Char → Bool
  | '.' :: rest =>
    !(rest.takeWhile isDigitOrLine).isEmpty
      && isOptionalExponent true (rest.dropWhile isDigitOrLine)
  | _ => false

/-- The forms of numbers with a fraction or an exponent. -/
def isFloatForm (v : Version) (cs : List Char) : Bool :=
  let u := dropSign cs
  isDigitFloat u
    || isPointFloat (if v.isOld then cs else u)
    || (v.isOld && isSexagesimal isPointTail u)
    || u == ".inf".toList || u == ".Inf".toList || u == ".INF".toList
    || cs == ".nan".toList || cs == ".NaN".toList || cs == ".NAN".toList

/-- An octal digit or the underscore. -/
def isOctalOrLine (c : Char) : Bool :=
  ('0' ≤ c && c ≤ '7') || c == '_'

/-- The forms of whole numbers, without sign. -/
def isIntBody (v : Version) : List Char → Bool
  | '0' :: 'b' :: rest => isRun (fun c => c == '0' || c == '1' || c == '_') rest
  | '0' :: 'x' :: rest => isRun (fun c => isHexDigit c || c == '_') rest
  | cs =>
    if v.isOld then
      isRun isOctalOrLine cs
        || (cs.head?.any (· != '0') && (afterDigits? cs).any List.isEmpty)
        || (cs.head?.any (· != '0') && isSexagesimal List.isEmpty cs)
    else
      match cs with
      | '0' :: 'o' :: rest => isRun isOctalOrLine rest
      | cs => isRun isDigitOrLine cs

/-- The forms of whole numbers. -/
def isIntForm (v : Version) (cs : List Char) : Bool :=
  isIntBody v (dropSign cs)

/-- The forms of timestamps: a date alone needs two digits for month and day. -/
def isTimestampForm (cs : List Char) : Bool :=
  match Stamp.ofChars? cs with
  | some s => s.wide || s.time.isSome
  | none => false

/-! ## The type -/

/-- The type that the form of a text gives, where its first character allows the type at all. -/
def Tag.ofForm? (v : Version) (first : Char) (text : List Char) : Option Tag :=
  let word := String.ofList text
  if (boolWords v).contains word then some .bool
  else if (first.isDigit || first == '+' || first == '-' || first == '.') && isFloatForm v text then
    some .float
  else if (first.isDigit || first == '+' || first == '-') && isIntForm v text then some .int
  else if word == "<<" then some .merge
  else if nullWords.contains word && !text.isEmpty then some .null
  else if first.isDigit && isTimestampForm text then some .timestamp
  else if word == "=" then some .value
  else if word == "!" || word == "&" || word == "*" then some (.other (Tag.family ++ "yaml"))
  else none

/-- The type of a scalar without quotes and tag; one line feed at the end is not looked at. -/
def Tag.ofPlain (v : Version) (text : String) : Tag :=
  match text.toList with
  | [] => .null
  | c :: rest => (Tag.ofForm? v c (dropFinalBreak (c :: rest))).getD .str

end FrontMatter.Yaml
