import FrontMatter.Block.LineMap
import FrontMatter.Value.Basic

/-!
# `FrontMatter.Document.Basic` — a block that has been read

## Contents

* `Content`: nothing, a mapping, a sequence or a scalar.
* `ParseError`: why a block could not be read.
* `Document`: the content of a block, the lines of its keys, and what went wrong.
-/

namespace FrontMatter

open Block (LineMap)

/-- What a block holds. -/
inductive Content
  | absent
  | mapping (entries : Entries Value)
  | sequence (items : List Value)
  | scalar (s : Scalar)

instance : Inhabited Content := ⟨.absent⟩

/-- A value as the content of a block; null is no content. -/
def Content.ofValue : Value → Content
  | .scalar .null => .absent
  | .scalar s => .scalar s
  | .list items => .sequence items
  | .map entries => .mapping entries

/-- Why a block could not be read, with line and column from one, and advice. -/
structure ParseError where
  message : String
  line : Option Int := none
  column : Option Int := none
  suggestion : Option String := none
  deriving Repr, DecidableEq

/-- A block that has been read. -/
structure Document where
  content : Content := .absent
  lines : LineMap := []
  errors : List ParseError := []

instance : Inhabited Document := ⟨{}⟩

end FrontMatter
