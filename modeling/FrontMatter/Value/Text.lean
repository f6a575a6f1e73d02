import FrontMatter.Decimal.Shortest
import FrontMatter.Value.Basic

/-!
# `FrontMatter.Value.Text` — values inside messages

A message shows a value as text: a text as it is, a list in brackets and a mapping in braces with
texts in quotes inside. A whole number of more than 4300 digits is refused.

## Contents

* `TooLong`, `intText`: the text of a whole number, and its refusal.
* `Scalar.text`, `Scalar.inner`: a scalar by itself, and inside a list or mapping.
* `Value.text`: any value.
-/

namespace FrontMatter

/-- A whole number with more digits than are shown. -/
inductive TooLong
  | mk
  deriving Repr, DecidableEq

/-- The greatest number of decimal digits that are read or written. -/
def maxDigits : Nat := 4300

/-- The refusal in words. -/
def TooLong.message : TooLong → String
  | .mk => "Exceeds the limit (" ++ toString maxDigits ++ " digits) for integer string conversion; "
    ++ "use sys.set_int_max_str_digits() to increase the limit"

/-- A whole number in decimal. -/
def intText (n : Int) : Except TooLong String :=
  if n.natAbs < Decimal.powerOfTen maxDigits then .ok (toString n) else .error .mk

/-- A scalar by itself: a text is shown as it is. -/
def Scalar.text : Scalar → Except TooLong String
  | .null => .ok "None"
  | .bool b => .ok (if b then "True" else "False")
  | .int n => intText n
  | .float x => .ok (Decimal.floatText x)
  | .str s => .ok s
  | .date d => .ok d.text
  | .dateTime t => .ok (t.text " ")

/-- A scalar inside a list or a mapping: a text is shown in quotes. -/
def Scalar.inner : Scalar → Except TooLong String
  | .str s => .ok (Text.quote s)
  | .date d => .ok d.constructorText
  | .dateTime t => .ok t.constructorText
  | s => s.text

/-- Texts with commas between them. -/
def commaList (texts : List String) : String :=
  String.intercalate ", " texts

mutual

/-- A value inside a list or a mapping. -/
def Value.inner : Value → Except TooLong String
  | .scalar s => s.inner
  | .list items => do
    let texts ← Value.innerItems items
    return "[" ++ commaList texts ++ "]"
  | .map entries => do
    let texts ← Value.innerEntries entries
    return String.ofList ('\x7b' :: (commaList texts).toList ++ ['\x7d'])

/-- The items of a list. -/
def Value.innerItems : List Value → Except TooLong (List String)
  | [] => .ok []
  | v :: vs => do
    let t ← v.inner
    let ts ← Value.innerItems vs
    return t :: ts

/-- The entries of a mapping. -/
def Value.innerEntries : List (String × Value) → Except TooLong (List String)
  | [] => .ok []
  | (k, v) :: es => do
    let t ← v.inner
    let ts ← Value.innerEntries es
    return (Text.quote k ++ ": " ++ t) :: ts

end

/-- A value by itself. -/
def Value.text : Value → Except TooLong String
  | .scalar s => s.text
  | v => v.inner

end FrontMatter
