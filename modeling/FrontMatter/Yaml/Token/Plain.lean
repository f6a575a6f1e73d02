import FrontMatter.Yaml.Token.Quoted

/-!
# `FrontMatter.Yaml.Token.Plain` — names, and scalars without quotes

A plain scalar is a run of words with blanks between them; it goes on over line breaks as long as
the lines are indented enough, with the breaks folded. In a flow collection the brackets and commas
end it.

## Contents

* `PlainContext`: the version, and whether the scalar is in a flow collection.
* `startsPlain`, `continuesPlain`: the characters of a plain scalar.
* `scanPlain`: the scalar.
* `isNameChar`, `scanName`: the name of an anchor or alias.
-/

namespace FrontMatter.Yaml

/-- Where a scalar stands. -/
structure PlainContext where
  version : Version
  inFlow : Bool
  deriving Repr, DecidableEq

/-- A bracket or comma of flow collections. -/
def isFlowMark (c : Char) : Bool :=
  c == ',' || c == '[' || c == ']' || c == '\x7b' || c == '\x7d'

/-- A character with a meaning of its own at the start of a token. -/
def isIndicator (c : Char) : Bool :=
  isFlowMark c
    || ['-', '?', ':', '#', '&', '*', '!', '|', '>', '\'', '"', '%', '@', '\x60'].contains c

/-- Whether a plain scalar may start with `x` before `next`. -/
def startsPlain (k : PlainContext) (x next : Char) : Bool :=
  if !isStop x && !isIndicator x then true
  else if x == '-' then !isStop next
  else if x == ':' && k.inFlow then !k.version.isOld && !isSpaceOrTab next
  else if x == '?' || x == ':' then !k.inFlow && !isStop next
  else false

/-- Whether a plain scalar goes on with `x` before `next`. -/
def continuesPlain (k : PlainContext) (x next : Char) : Bool :=
  if x == ':' then !isStop next
  else if x == '?' then !(k.inFlow && k.version.isOld)
  else !isStop x && !(k.inFlow && isFlowMark x)

/-- What stands between two words of a plain scalar: the text it is folded into, and whether a line
was ended. -/
structure Gap where
  text : List Char
  endsLine : Bool

/-- Reads further breaks with the spaces around them; none if a document marker starts a line. -/
def scanPlainBreaks : List Char → List Char → Cursor → Option (List Char) × Cursor
  | [], done, c => (some done.reverse, c)
  | _ :: steps, done, c =>
    if c.atDocumentMarker then (none, c)
    else
      let c := c.skipSpaces
      match c.takeBreak with
      | some (b, c) => scanPlainBreaks steps (b :: done) c
      | none => (some done.reverse, c)

/-- Reads what stands between two words. -/
def scanGap (c : Cursor) : Gap × Cursor :=
  let (spaces, c) := c.span (· == ' ')
  match c.takeBreak with
  | some (b, c) =>
    match scanPlainBreaks c.steps [] c with
    | (some more, c) => (⟨foldBreaks b more, true⟩, c)
    | (none, c) => (⟨[], true⟩, c)
  | none => (⟨spaces, false⟩, c)

/-- Reads words; `done` holds the text so far (last first), `gap` what stands before the next word.
The result tells whether a line was ended after the last word. -/
def scanPlainFrom (k : PlainContext) (indent : Nat) :
    List Char → List Char → Gap → Cursor → (List Char × Bool) × Cursor
  | [], done, gap, c => ((done.reverse, gap.endsLine), c)
  | _ :: steps, done, gap, c =>
    let (word, c') := c.span₂ (continuesPlain k)
    if c.peek == '#' || word.isEmpty then ((done.reverse, gap.endsLine), c)
    else
      let done := word.reverse ++ (gap.text.reverse ++ done)
      let (gap, c') := scanGap c'
      if gap.text.isEmpty || (!k.inFlow && c'.column < indent) then
        ((done.reverse, gap.endsLine), c')
      else scanPlainFrom k indent steps done gap c'

/-- Reads a plain scalar whose lines stand at column `indent` or later. The result tells whether a
line was ended after it. -/
def scanPlain (k : PlainContext) (indent : Nat) (c : Cursor) : (String × Bool) × Cursor :=
  let ((cs, endsLine), c) := scanPlainFrom k indent c.steps [] ⟨[], false⟩ c
  ((String.ofList cs, endsLine), c)

/-! ## Names -/

/-- A character of a name: anything visible but the brackets and commas. -/
def isNameChar (c : Char) : Bool :=
  let n := c.toNat
  !isFlowMark c && ((0x21 ≤ n && n ≤ 0x7E) || (0xA0 ≤ n && n ≤ 0xD7FF)
    || (0xE000 ≤ n && n ≤ 0xFFFD && n != 0xFEFF) || 0x10000 ≤ n)

/-- A character that may stand after a name. -/
def endsName (c : Char) : Bool :=
  isStop c || isFlowMark c || ['?', ':', '%', '@', '\x60'].contains c

/-- Reads the name after `&` or `*`. -/
def scanName (isAlias : Bool) (c : Cursor) : Except Fault (String × Cursor) :=
  let (name, c) := c.advance.span isNameChar
  if name.isEmpty || !endsName c.peek then
    c.fault (if isAlias then .aliasName c.peek else .anchorName c.peek)
  else .ok (String.ofList name, c)

end FrontMatter.Yaml
