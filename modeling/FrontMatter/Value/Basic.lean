import FrontMatter.Calendar.DateTime
import FrontMatter.Value.Table

/-!
# `FrontMatter.Value.Basic` — the values a front-matter block may hold

## Contents

* `Scalar`: null, truth values, numbers, texts, days and moments.
* `Value`: a scalar, a list of values, or a mapping from texts to values in a fixed order.
* `Value.str?`: the text that a value is.
-/

namespace FrontMatter

open Calendar (Date DateTime)

/-- A value without parts. -/
inductive Scalar
  | null
  | bool (b : Bool)
  | int (n : Int)
  | float (x : Float)
  | str (s : String)
  | date (d : Date)
  | dateTime (t : DateTime)

/-- A front-matter value. -/
inductive Value
  | scalar (s : Scalar)
  | list (items : List Value)
  | map (entries : List (String × Value))

instance : Inhabited Value := ⟨.scalar .null⟩

/-- A value that is the text `s`. -/
abbrev Value.str (s : String) : Value := .scalar (.str s)

/-- The text that a value is, if it is one. -/
def Value.str? : Value → Option String
  | .scalar (.str s) => some s
  | _ => none

end FrontMatter
