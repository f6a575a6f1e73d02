import FrontMatter.Diagnostic.Draft

/-!
# `FrontMatter.Diagnostic.Collector` — the findings of a run

## Contents

* `Collector`: findings in the order in which they were added.
* `add`, `extend`, `clear`: one more, several more, none.
* `count`, `any`, `files`: what is there.
* `addDraft`, `extendDrafts`: adding findings that are given as loose fields.
-/

namespace FrontMatter

/-- The findings of a run, in the order in which they were added. -/
structure Collector where
  diagnostics : List Diagnostic := []
  deriving Repr, DecidableEq

namespace Collector

/-- One finding more. -/
def add (c : Collector) (d : Diagnostic) : Collector :=
  ⟨c.diagnostics ++ [d]⟩

/-- Several findings more. -/
def extend (c : Collector) (ds : List Diagnostic) : Collector :=
  ⟨c.diagnostics ++ ds⟩

/-- No findings. -/
def clear (_ : Collector) : Collector :=
  {}

/-- The number of findings. -/
def count (c : Collector) : Nat :=
  c.diagnostics.length

/-- Whether there is a finding. -/
def any (c : Collector) : Bool :=
  0 < c.count

/-- The files that the findings are in, each once, by their first finding. -/
def filesOf (ds : List Diagnostic) : List String :=
  (ds.map Diagnostic.file).eraseDups

/-- The files with findings. -/
def files (c : Collector) : List String :=
  filesOf c.diagnostics

/-- Adds the finding that a call with named fields gives; a call that is turned down changes
nothing. -/
def addDraft (c : Collector) (d : Draft) : Except CallFault Diagnostic × Collector :=
  match d.checkCall with
  | .ok diagnostic => (.ok diagnostic, c.add diagnostic)
  | .error f => (.error f, c)

/-- Adds findings that are given as loose fields: all of them, or none if one has faults. -/
def extendDrafts (c : Collector) (ds : List Draft) : Except FieldFaults Unit × Collector :=
  match Draft.checkAll ds with
  | .ok diagnostics => (.ok (), c.extend diagnostics)
  | .error f => (.error f, c)

end Collector

end FrontMatter
