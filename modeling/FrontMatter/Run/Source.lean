import FrontMatter.Block.Extract
import FrontMatter.Document.Kind
import FrontMatter.Document.Read

/-!
# `FrontMatter.Run.Source` — the documents that are handed to a run

## Contents

* `BlockInput`: the block of a document, which may be missing or no text at all.
* `Source`, `Source.ofMarkdown`: a document, and the one that a markdown text holds.
* `Source.kindName`: the name of the kind, given or found from the path.
* `Source.read`: reading the block.
-/

namespace FrontMatter

open Text (Path)

/-- The block of a document: none, a text, or a value of a type that is no text. -/
inductive BlockInput
  | missing
  | text (s : String)
  | foreign (typeName : String)
  deriving Repr, DecidableEq

/-- The block that may have been found in a text. -/
def BlockInput.ofText? : Option String → BlockInput
  | none => .missing
  | some s => .text s

/-- A document that is handed to a run. The offset leads from the lines of the block to those of the
content. -/
structure Source where
  path : String
  kind : String
  block : BlockInput
  content : Option String := none
  lineOffset : Int := 0

namespace Source

/-- The document that a markdown text holds; the block starts on its second line. -/
def ofMarkdown (path kind content : String) : Source :=
  { path := path
    kind := kind
    block := .ofText? (Block.extract? content)
    content := some content
    lineOffset := 1 }

/-- The name of a kind: as it is given, or found from the path. -/
def kindName (given : Option String) (path : String) : Except String String :=
  match given with
  | some k => .ok k
  | none =>
    match DocumentKind.ofPath? (Path.ofString path) with
    | some k => .ok k.word
    | none => .error (unknownPlace path)

/-- A block of a foreign type, in words. -/
def foreignMessage (typeName : String) : String :=
  "'" ++ typeName ++ "' object has no attribute 'strip'"

/-- Reads the block: nothing where there is none, a message where it is no text. -/
def read (s : Source) : Except String (Option Reading) :=
  match s.block with
  | .missing => .ok none
  | .text t => .ok (some (Reading.ofText t))
  | .foreign name => .error (foreignMessage name)

end Source

end FrontMatter
