import FrontMatter.Text.Path
import FrontMatter.Value.Table

/-!
# `FrontMatter.Tree.Basic` — files and directories

A tree is a file or a directory with named trees in it. A path is followed from the root, name by
name; `..` leads back to the directory above. Only what stands below the root is known: a path with
an anchor leads nowhere.

## Contents

* `Tree`: files and directories.
* `Tree.insert`, `Tree.ofFiles`: a tree from the paths of its files.
* `Tree.at?`: the tree at a path.
* `Tree.entriesAt`: what a directory holds.
-/

namespace FrontMatter

open Text (Path)

/-- Files and directories. -/
inductive Tree
  | file (bytes : List UInt8)
  | directory (children : List (String × Tree))

namespace Tree

/-- A directory without anything in it. -/
def empty : Tree := .directory []

instance : Inhabited Tree := ⟨empty⟩

/-- The named trees in a directory; a file has none. -/
def children : Tree → Entries Tree
  | .file _ => []
  | .directory cs => cs

/-- Whether a tree is a directory. -/
def isDirectory : Tree → Bool
  | .file _ => false
  | .directory _ => true

/-! ## Building -/

/-- What stands where a directory is made: a directory that is there stays as it is. -/
def makeDirectory : Option Tree → Tree
  | some (.directory cs) => .directory cs
  | _ => empty

/-- Puts a file, or a directory where none is given, at a path below a tree; the directories on the
way are made. -/
def insert (bytes : Option (List UInt8)) (here : Option Tree) : List String → Tree
  | [] =>
    match bytes with
    | some bs => .file bs
    | none => makeDirectory here
  | name :: rest =>
    let cs : Entries Tree := (here.map children).getD []
    .directory (cs.put name (insert bytes (cs.get? name) rest))

/-- The tree with the given files, and directories where no bytes are given. A later file takes the
place of an earlier one. -/
def ofFiles (files : List (Path × Option (List UInt8))) : Tree :=
  files.foldl (fun t f => insert f.2 (some t) f.1.parts) empty

/-! ## Looking up -/

/-- Follows names from a tree; `above` are the directories above it, nearest first. Nothing is above
the root. -/
def walk (above : List Tree) (here : Tree) : List String → Option Tree
  | [] => some here
  | name :: rest =>
    match here with
    | .file _ => none
    | .directory cs =>
      if name == ".." then
        match above with
        | [] => none
        | t :: ts => walk ts t rest
      else
        match Table.get? cs name with
        | none => none
        | some t => walk (.directory cs :: above) t rest

/-- The tree at a path. A path from an anchor leads out of the tree, where nothing is known, so
there is no tree at it. -/
def at? (root : Tree) (p : Path) : Option Tree :=
  if p.anchor == "" then walk [] root p.parts else none

/-- The named trees in the directory at a path; none if there is no directory. -/
def entriesAt (root : Tree) (p : Path) : Entries Tree :=
  ((root.at? p).map children).getD []

/-- The bytes of the file at a path. -/
def fileAt? (root : Tree) (p : Path) : Option (List UInt8) :=
  match root.at? p with
  | some (.file bytes) => some bytes
  | _ => none

end Tree

end FrontMatter
