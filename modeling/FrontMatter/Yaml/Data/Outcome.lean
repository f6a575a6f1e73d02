import FrontMatter.Yaml.Fault

/-!
# `FrontMatter.Yaml.Data.Outcome` — the fault that is met first

Collections are filled level by level: the parts of all collections of one level are made before
the parts of the next. When several parts have faults, the one of the highest level counts, and on
one level the first in the text. An outcome therefore remembers how far down its fault arose.

## Contents

* `Outcome`: a result, or a fault with its level.
* `Outcome.all`: the results of several parts.
* `Outcome.below`: the same outcome, one level further down.
-/

namespace FrontMatter.Yaml

/-- A result, or a fault that arose `level` levels down. -/
inductive Outcome (α : Type)
  | ok (a : α)
  | fault (level : Nat) (f : Fault)

namespace Outcome

variable {α β : Type}

/-- The result or the fault. -/
def toExcept : Outcome α → Except Fault α
  | .ok a => .ok a
  | .fault _ f => .error f

/-- A result or a fault on the level itself. -/
def ofExcept : Except Fault α → Outcome α
  | .ok a => .ok a
  | .error f => .fault 0 f

/-- Applies a function to the result. -/
def map (f : α → β) : Outcome α → Outcome β
  | .ok a => .ok (f a)
  | .fault l e => .fault l e

/-- The result, if there is one. -/
def value? : Outcome α → Option α
  | .ok a => some a
  | .fault _ _ => none

/-- Moves a fault one level down. -/
def below : Outcome α → Outcome α
  | .ok a => .ok a
  | .fault l e => .fault (l + 1) e

/-- Of a fault and an outcome that comes later: the one that is met first. -/
def earlier (first : Option (Nat × Fault)) (later : Outcome α) : Option (Nat × Fault) :=
  match first, later with
  | f, .ok _ => f
  | none, .fault l e => some (l, e)
  | some (k, f), .fault l e => if l < k then some (l, e) else some (k, f)

/-- All results, or the fault that is met first. -/
def all (os : List (Outcome α)) : Outcome (List α) :=
  match os.foldl earlier none with
  | some (l, e) => .fault l e
  | none => .ok (os.filterMap value?)

/-- Two results, or the fault that is met first. -/
def both (a : Outcome α) (b : Outcome β) : Outcome (α × β) :=
  match a, b with
  | .ok x, .ok y => .ok (x, y)
  | .fault l e, .ok _ => .fault l e
  | .ok _, .fault l e => .fault l e
  | .fault k e, .fault l f => if l < k then .fault l f else .fault k e

/-- A result that a check on the level itself may still turn down. -/
def check (a : Outcome α) (fault? : Option Fault) : Outcome α :=
  match fault? with
  | none => a
  | some f => (both a (.fault 0 f : Outcome Unit)).map Prod.fst

end Outcome

end FrontMatter.Yaml
