import FrontMatter.Text.Blank
import FrontMatter.Text.Lines
import FrontMatter.Text.Utf8
import FrontMatter.Tree.Basic

/-!
# `FrontMatter.Tree.Version` — the version that documents have to state

The version is the text of a file below the root of the tree. A path with an anchor leads to no
file.

## Contents

* `VersionFault`: why there is no version.
* `expectedVersion`: the version that a file holds.
-/

namespace FrontMatter

open Text (DecodeFault Path)

/-- Why there is no version: no file, nothing in the file, or bytes that are no text. -/
inductive VersionFault
  | notFound (path : Path)
  | empty (path : Path)
  | undecodable (f : DecodeFault)
  deriving Repr, DecidableEq

/-- A fault in words. -/
def VersionFault.message : VersionFault → String
  | .notFound p => "VERSION file not found: " ++ p.toString
  | .empty p => "VERSION file is empty: " ++ p.toString
  | .undecodable f => f.message

/-- The version that the file at a path holds: its text without the blanks around it. -/
def expectedVersion (tree : Tree) (p : Path) : Except VersionFault String :=
  match tree.fileAt? p with
  | none => .error (.notFound p)
  | some bytes =>
    match Text.decode bytes with
    | .error f => .error (.undecodable f)
    | .ok text =>
      let version := Text.strip (Text.unifyBreaks text)
      if version == "" then .error (.empty p) else .ok version

end FrontMatter
