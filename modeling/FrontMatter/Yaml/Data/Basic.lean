import FrontMatter.Decimal.Binary64
import FrontMatter.Value.Text

/-!
# `FrontMatter.Yaml.Data.Basic` — the data that nodes denote

Data are front-matter values and what else the tags of the format can make: bytes, tuples, sets, and
mappings with keys of any kind.

## Contents

* `Data`: the data, and `Data.typeName`.
* `Data.unhashable?`: why a datum cannot be a key.
* `Data.same`: equality of keys; numbers are equal by value.
* `Data.keyText`: a key as text.
-/

namespace FrontMatter.Yaml

open Decimal (Parts powerOfTwo)

/-- What a node denotes. -/
inductive Data
  | scalar (s : Scalar)
  /-- The double that is no number, as one value that equals itself. -/
  | notANumber
  | bytes (bs : List UInt8)
  | list (items : List Data)
  | tuple (items : List Data)
  | set (members : List Data)
  /-- A mapping; the flag tells whether it was written as a sequence of pairs. -/
  | map (ordered : Bool) (entries : List (Data × Data))

namespace Data

instance : Inhabited Data := ⟨.scalar .null⟩

/-- The name of the type of a datum that is no scalar. -/
def typeName : Data → String
  | .scalar _ => ""
  | .notANumber => "float"
  | .bytes _ => "bytes"
  | .list _ => "list"
  | .tuple _ => "tuple"
  | .set _ => "set"
  | .map ordered _ => if ordered then "ordereddict" else "dict"

/-! ## Keys -/

mutual

/-- The name of the type that keeps a datum from being a key: lists, sets and mappings are none, and
a tuple is none if it holds one. -/
def unhashable? : Data → Option String
  | .tuple items => unhashableItem? items
  | .list _ => some "list"
  | .set _ => some "set"
  | .map ordered _ => some (if ordered then "ordereddict" else "dict")
  | _ => none

/-- The first such name among some data. -/
def unhashableItem? : List Data → Option String
  | [] => none
  | d :: ds => d.unhashable?.orElse fun _ => unhashableItem? ds

end

/-- Whether a double is a given whole number. -/
def floatIsInt (x : Float) (n : Int) : Bool :=
  match Parts.ofFloat? x with
  | none => false
  | some p =>
    let m : Int := if p.negative then -p.mantissa else p.mantissa
    if 0 ≤ p.exponent then m * (powerOfTwo p.exponent.toNat : Nat) == n
    else m == n * (powerOfTwo (-p.exponent).toNat : Nat)

/-- The whole number that a truth value or whole number is as a key. -/
def intOf? : Scalar → Option Int
  | .bool b => some (if b then 1 else 0)
  | .int n => some n
  | _ => none

/-- Equality of scalars as keys: truth values are the numbers one and zero, numbers are compared by
value, days and moments are never equal. -/
def sameScalar (a b : Scalar) : Bool :=
  match a, b with
  | .str s, .str t => s == t
  | .null, .null => true
  | .date d, .date e => d == e
  | .dateTime t, .dateTime u => t.same u
  | .float x, .float y => x == y
  | .float x, b => ((intOf? b).map (floatIsInt x)).getD false
  | a, .float y => ((intOf? a).map (floatIsInt y)).getD false
  | a, b =>
    match intOf? a, intOf? b with
    | some m, some n => m == n
    | _, _ => false

mutual

/-- Equality of keys. -/
def same : Data → Data → Bool
  | .scalar a, .scalar b => sameScalar a b
  | .notANumber, .notANumber => true
  | .bytes a, .bytes b => a == b
  | .tuple a, .tuple b => sameItems a b
  | _, _ => false

/-- Equality of tuples, item by item. -/
def sameItems : List Data → List Data → Bool
  | [], [] => true
  | a :: as, b :: bs => same a b && sameItems as bs
  | _, _ => false

end

/-! ## Keys as text -/

/-- The text of a tuple with the given items. -/
def tupleText (items : List String) : String :=
  match items with
  | [t] => "(" ++ t ++ ",)"
  | ts => "(" ++ commaList ts ++ ")"

/-- A text in braces. -/
def braced (s : String) : String :=
  String.ofList ('\x7b' :: (s.toList ++ ['\x7d']))

mutual

/-- A datum inside another one. -/
def inner : Data → Except TooLong String
  | .scalar s => s.inner
  | .notANumber => .ok Decimal.layout.notANumber
  | .bytes bs => .ok (Text.quoteBytes bs)
  | .list items => do return "[" ++ commaList (← innerItems items) ++ "]"
  | .tuple items => do return tupleText (← innerItems items)
  | .set members => do return braced (commaList (← innerItems members))
  | .map _ entries => do return braced (commaList (← innerEntries entries))

/-- The items of a list, tuple or set. -/
def innerItems : List Data → Except TooLong (List String)
  | [] => .ok []
  | d :: ds => do
    let t ← d.inner
    let ts ← innerItems ds
    return t :: ts

/-- The entries of a mapping. -/
def innerEntries : List (Data × Data) → Except TooLong (List String)
  | [] => .ok []
  | (k, v) :: es => do
    let t ← k.inner
    let u ← v.inner
    let ts ← innerEntries es
    return (t ++ ": " ++ u) :: ts

end

/-- A key as text: a text is itself, everything else as in messages. -/
def keyText : Data → Except TooLong String
  | .scalar s => s.text
  | d => d.inner

end Data

end FrontMatter.Yaml
