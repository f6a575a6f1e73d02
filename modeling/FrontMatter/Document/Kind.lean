import FrontMatter.Text.Path
import FrontMatter.Text.Quoted

/-!
# `FrontMatter.Document.Kind` — tenets and bindings

## Contents

* `DocumentKind`, `DocumentKind.word`, `DocumentKind.ofWord?`: the kinds and their names.
* `DocumentKind.ofPath?`: the kind that the place of a document tells.
* `unknownPlace`: the message when it tells none.
-/

namespace FrontMatter

open Text (Path quote)

/-- The kinds of documents. -/
inductive DocumentKind
  | tenet
  | binding
  deriving Repr, DecidableEq

/-- The name of a kind. -/
def DocumentKind.word : DocumentKind → String
  | .tenet => "tenet"
  | .binding => "binding"

/-- The kind of a given name. -/
def DocumentKind.ofWord? (s : String) : Option DocumentKind :=
  if s == "tenet" then some .tenet else if s == "binding" then some .binding else none

/-- A kind is found by its name. -/
theorem DocumentKind.ofWord?_word (k : DocumentKind) : ofWord? k.word = some k := by
  cases k <;> rfl

/-- The name that is no kind, in words. -/
def unknownKind (name : String) : String :=
  quote name ++ " is not a valid DocumentKind"

/-- The kind of a document at a path: a tenet below a directory `tenets`, else a binding below a
directory `bindings`. -/
def DocumentKind.ofPath? (p : Path) : Option DocumentKind :=
  if p.parts.contains "tenets" then some .tenet
  else if p.parts.contains "bindings" then some .binding
  else none

/-- A path that tells no kind, in words. -/
def unknownPlace (path : String) : String :=
  "Unable to determine document kind from path '" ++ path ++ "'"

end FrontMatter
