import FrontMatter.Yaml.Token.Basic

/-!
# `FrontMatter.Yaml.Token.Uri` — tags, handles and the names they stand for

A tag is written `!<uri>`, or as a handle and a suffix. Handles are `!`, `!!` and `!name!`. In the
text of a name, `%` with two hexadecimal digits is a byte, and a run of such bytes is decoded as
characters.

## Contents

* `isUriChar`, `scanUri`: the text of a name.
* `scanHandle`: a handle.
* `scanTag`: a tag before a node.
-/

namespace FrontMatter.Yaml

/-- A letter, a digit, `-` or `_` of ASCII. -/
def isWordChar (c : Char) : Bool :=
  c.isAlphanum || c == '-' || c == '_'

/-- The characters of a name beside letters and digits. -/
def uriMarks : List Char :=
  ['-', ';', '/', '?', ':', '@', '&', '=', '+', '$', ',', '_', '.', '!', '~', '*', '\'', '(', ')',
    '[', ']', '%']

/-- A character of a name; `#` is one from version 1.2 on. -/
def isUriChar (v : Version) (c : Char) : Bool :=
  c.isAlphanum || uriMarks.contains c || (v.isNew && c == '#')

/-- Reads escaped bytes as long as there are any; `done` holds them, last first. -/
def scanEscapesFrom (place : TagPlace) :
    List Char → List UInt8 → Cursor → Except Fault (List UInt8 × Cursor)
  | [], done, c => .ok (done, c)
  | _ :: steps, done, c =>
    if c.peek != '%' then .ok (done, c)
    else
      let c := c.advance
      if !isHexDigit c.peek then c.fault (.uriEscape place c.peek)
      else if !isHexDigit (c.peekAt 1) then c.fault (.uriEscape place (c.peekAt 1))
      else
        let byte := UInt8.ofNat (hexNumber [c.peek, c.peekAt 1])
        scanEscapesFrom place steps (byte :: done) (c.skip 2)

/-- Reads a run of escaped bytes as characters. -/
def scanEscapes (place : TagPlace) (c : Cursor) : Except Fault (List Char × Cursor) := do
  let (done, c') ← scanEscapesFrom place c.steps [] c
  match Text.decode done.reverse with
  | .ok s => return (s.toList, c')
  | .error fault => c.fault (.uriBytes place fault)

/-- Reads the rest of a name; `done` holds what is read, last first. -/
def scanUriFrom (v : Version) (place : TagPlace) :
    List Char → List Char → Cursor → Except Fault (List Char × Cursor)
  | [], done, c => .ok (done.reverse, c)
  | _ :: steps, done, c => do
    let (xs, c) := c.span fun x => isUriChar v x && x != '%'
    let done := xs.reverse ++ done
    if c.peek == '%' then
      let (ys, c) ← scanEscapes place c
      scanUriFrom v place steps (ys.reverse ++ done) c
    else return (done.reverse, c)

/-- Reads a name, of at least one character. -/
def scanUri (v : Version) (place : TagPlace) (c : Cursor) : Except Fault (String × Cursor) := do
  if !isUriChar v c.peek then c.fault (.noUri place c.peek)
  else
    let (cs, c) ← scanUriFrom v place c.steps [] c
    return (String.ofList cs, c)

/-- Reads a handle: `!` before a space, or `!`, word characters and `!`. -/
def scanHandle (place : TagPlace) (c : Cursor) : Except Fault (String × Cursor) :=
  if c.peek != '!' then c.fault (.handleStart place c.peek)
  else
    let c₁ := c.advance
    if c₁.peek == ' ' then .ok ("!", c₁)
    else
      let (word, c₂) := c₁.span isWordChar
      if c₂.peek != '!' then c₂.fault (.handleEnd place c₂.peek)
      else .ok (String.ofList ('!' :: (word ++ ['!'])), c₂.advance)

/-- Reads handle and suffix of a tag that is not verbatim. The cursor is at the last of the leading
exclamation marks, which are `short`. The handle is longer only if another `!` follows in the
word. -/
def scanShorthand (v : Version) (short : String) (c : Cursor) : Except Fault (RawTag × Cursor) := do
  let word := (c.rest.drop 1).takeWhile fun x => !isWordEnd x
  let (handle, c) ← if word.contains '!' then scanHandle .node c else .ok (short, c.advance)
  let (suffix, c) ← scanUri v .node c
  return (⟨some handle, suffix⟩, c)

/-- Reads a tag. -/
def scanTag (v : Version) (c : Cursor) : Except Fault (RawTag × Cursor) := do
  let double := c.peekAt 1 == '!'
  let short := if double then "!!" else "!"
  let c := if double then c.advance else c
  let (tag, c) ←
    if c.peekAt 1 == '<' then do
      let (suffix, c) ← scanUri v .node (c.skip 2)
      if c.peek != '>' then c.fault (.verbatimEnd c.peek)
      else .ok (⟨none, suffix⟩, c.advance)
    else if isStop (c.peekAt 1) then .ok (⟨none, short⟩, c.advance)
    else scanShorthand v short c
  if isWordEnd c.peek then return (tag, c) else c.fault (.tagEnd c.peek)

end FrontMatter.Yaml
