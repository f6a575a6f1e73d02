import FrontMatter.Text.Lines
import FrontMatter.Value.Table

/-!
# `FrontMatter.Block.LineMap` — the lines on which keys stand

The line of a key is found without reading the block as data: it is the first line that starts with
the key and a colon directly after it. Only keys of letters, digits, hyphens and underscores are
found in this way.

## Contents

* `isKeyChar`, `keyOfLine?`: the key with which a line starts.
* `LineMap`, `LineMap.ofText`: the lines of the keys of a block.
-/

namespace FrontMatter.Block

/-- A letter or digit of ASCII, a hyphen or an underscore. -/
def isKeyChar (c : Char) : Bool :=
  c.isAlphanum || c == '_' || c == '-'

/-- The key with which a line starts: key characters up to a colon. -/
def keyOfLine? (line : List Char) : Option String :=
  let key := line.takeWhile isKeyChar
  if !key.isEmpty && (line.dropWhile isKeyChar).head? == some ':' then some (String.ofList key)
  else none

/-- Keys with their lines, in the order of the lines. -/
abbrev LineMap := Entries Int

/-- Adds the keys of some lines to the map; the first of them has the given number. A key that is
in the map already stays as it is. -/
def LineMap.addLines (isKey : String → Bool) (number : Nat) (done : LineMap) :
    List (List Char) → LineMap
  | [] => done.reverse
  | line :: rest =>
    match keyOfLine? line with
    | some k =>
      if isKey k && !done.holds k then
        addLines isKey (number + 1) ((k, (number : Int)) :: done) rest
      else addLines isKey (number + 1) done rest
    | none => addLines isKey (number + 1) done rest

/-- The first line of each key in a text, lines counted from one. -/
def LineMap.ofText (text : String) (isKey : String → Bool) : LineMap :=
  addLines isKey 1 [] (Text.splitLines text.toList)

end FrontMatter.Block
