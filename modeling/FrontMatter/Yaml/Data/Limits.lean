import FrontMatter.Decimal.Read
import FrontMatter.Yaml.Data.Basic
import FrontMatter.Yaml.Fault

/-!
# `FrontMatter.Yaml.Data.Limits` — the data that a front-matter block may denote

A block may denote scalars, lists and mappings, not too many of them and not nested too deeply. The
data is walked from the root, every part before the parts below it; the keys of a mapping are no
parts. At each part the count is checked first, then the depth, then the kind.

## Contents

* `maxLength`, `maxParts`, `maxDepth`: the limits.
* `checkPart`: the limits at one part.
* `Data.restrict`: the value that the data denotes within the limits.
-/

namespace FrontMatter.Yaml

/-! ## The limits -/

/-- The greatest number of characters of a block. -/
def maxLength : Nat := 1000000

/-- The greatest number of parts: the root, the items of lists and the values of mappings. -/
def maxParts : Nat := 10000

/-- The greatest depth of a part; the root has depth zero. -/
def maxDepth : Nat := 20

/-- Checks the part that is the `count`th of the walk, at the given depth. -/
def checkPart (count depth : Nat) : Except Fault Unit :=
  if maxParts < count then .error (.violation (.nodes maxParts) none)
  else if maxDepth < depth then .error (.violation (.depth maxDepth) none)
  else .ok ()

/-- The fault that data of a type may not occur. -/
def typeFault (d : Data) : Fault :=
  .violation (.type d.typeName) none

/-! ## The walk -/

/-- A key as text, or the fault that it is too long to be shown. -/
def Data.entryKey (d : Data) : Except Fault String :=
  match d.keyText with
  | .ok s => .ok s
  | .error e => .error (.refused (.longText e.message))

mutual

/-- Walks data at the given depth after `seen` parts; gives the value and the number of parts walked
in all. Keys become texts, and of two keys that become one text the first gives the place and the
last the value. -/
def Data.restrictFrom (seen depth : Nat) (d : Data) : Except Fault (Value × Nat) := do
  checkPart (seen + 1) depth
  match d with
  | .scalar s => return (.scalar s, seen + 1)
  | .notANumber => return (.scalar (.float Decimal.notANumber), seen + 1)
  | .list items => do
    let (vs, n) ← Data.restrictItems (seen + 1) (depth + 1) items
    return (.list vs, n)
  | .map _ entries => do
    let (es, n) ← Data.restrictEntries (seen + 1) (depth + 1) entries
    return (.map (Table.ofList es), n)
  | d => throw (typeFault d)

/-- Walks the items of a list. -/
def Data.restrictItems (seen depth : Nat) : List Data → Except Fault (List Value × Nat)
  | [] => .ok ([], seen)
  | d :: ds => do
    let (v, n) ← Data.restrictFrom seen depth d
    let (vs, n) ← Data.restrictItems n depth ds
    return (v :: vs, n)

/-- Walks the values of a mapping, each after its key. -/
def Data.restrictEntries (seen depth : Nat) :
    List (Data × Data) → Except Fault (List (String × Value) × Nat)
  | [] => .ok ([], seen)
  | (k, d) :: es => do
    let key ← Data.entryKey k
    let (v, n) ← Data.restrictFrom seen depth d
    let (vs, n) ← Data.restrictEntries n depth es
    return ((key, v) :: vs, n)

end

/-- The value that data denotes, if it is within the limits. -/
def Data.restrict (d : Data) : Except Fault Value :=
  (d.restrictFrom 0 0).map Prod.fst

end FrontMatter.Yaml
