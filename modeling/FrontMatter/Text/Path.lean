/-!
# `FrontMatter.Text.Path` — paths as their components

A path is a list of names, counted from the working directory or from an anchor of slashes; empty
names and `.` are dropped when it is read, `..` is kept. The empty list is the directory itself,
written `.`.

## Contents

* `Path`, `Path.ofString`, `Path.toString`: reading and writing.
* `Path.join`, `Path.child`: going down.
* `Path.name`, `Path.stem`: the last component, and without its last suffix.
-/

namespace FrontMatter.Text

/-- A path, as its components from the top down. -/
structure Path where
  parts : List String
  /-- The slashes it starts with: none, one, or exactly two. -/
  anchor : String := ""
  deriving Repr, DecidableEq

namespace Path

/-- The slashes that a path starts with. Two of them are an anchor of their own, more count as
one. -/
def anchorOf (cs : List Char) : String :=
  match (cs.takeWhile (· == '/')).length with
  | 0 => ""
  | 2 => "//"
  | _ => "/"

/-- The path that a text denotes. -/
def ofString (s : String) : Path :=
  { parts := ((s.toList.splitOn '/').map String.ofList).filter fun p => p != "" && p != "."
    anchor := anchorOf s.toList }

/-- The path with single slashes, or `.` for the directory itself. -/
def toString (p : Path) : String :=
  if p.parts.isEmpty && p.anchor == "" then "." else p.anchor ++ String.intercalate "/" p.parts

instance : ToString Path := ⟨Path.toString⟩

/-- The same path in its one written form. -/
def normalize (s : String) : String :=
  (ofString s).toString

/-- The relative path `q`, taken from `p`. -/
def join (p q : Path) : Path :=
  { p with parts := p.parts ++ q.parts }

/-- The entry of a given name in `p`. -/
def child (p : Path) (name : String) : Path :=
  { p with parts := p.parts ++ [name] }

/-- The last component; empty for the directory itself. -/
def name (p : Path) : String :=
  p.parts.getLastD ""

/-- The characters of a name before its last dot, if that dot is neither the first nor the last
character; the whole name otherwise. -/
def stemChars (cs : List Char) : List Char :=
  let tail := cs.reverse.takeWhile (· != '.')
  let head := (cs.reverse.dropWhile (· != '.')).drop 1
  if tail.isEmpty || head.isEmpty then cs else head.reverse

/-- The last component without its last suffix. -/
def stem (p : Path) : String :=
  String.ofList (stemChars p.name.toList)

end Path

end FrontMatter.Text
