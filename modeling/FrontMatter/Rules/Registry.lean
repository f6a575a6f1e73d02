import FrontMatter.Value.Table

/-!
# `FrontMatter.Rules.Registry` — who owns an id

The first file that claims an id owns it for good.

## Contents

* `Registry`, `Registry.owner?`: the owners of ids, in the order in which the ids were claimed.
* `Registry.claim`: claiming an id.
-/

namespace FrontMatter

/-- The owners of ids, in the order in which the ids were claimed. -/
structure Registry where
  owners : Entries String := []
  deriving Repr, DecidableEq

namespace Registry

/-- The file that owns an id. -/
def owner? (r : Registry) (id : String) : Option String :=
  r.owners.get? id

/-- Claims an id for a file: it becomes the owner unless there is one. Gives the owner if it is
another file. -/
def claim (r : Registry) (id file : String) : Option String × Registry :=
  match r.owner? id with
  | none => (none, ⟨r.owners.put id file⟩)
  | some owner => (if owner == file then none else some owner, r)

/-- The number of ids that are owned. -/
def size (r : Registry) : Nat :=
  r.owners.length

end Registry

end FrontMatter
