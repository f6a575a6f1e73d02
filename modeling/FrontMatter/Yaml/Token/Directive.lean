import FrontMatter.Yaml.Token.Uri

/-!
# `FrontMatter.Yaml.Token.Directive` — directive lines

A line that starts with `%` names the version of the format, gives a tag handle its meaning, or is
ignored. A comment may follow.

## Contents

* `scanVersion`, `scanHandleMeaning`: the two directives with a meaning.
* `scanDirective`: a whole directive line.
-/

namespace FrontMatter.Yaml

/-- A number with more digits than this is refused. -/
def numberLimit : Nat := 4300

/-- The number that a run of decimal digits denotes. -/
def decimalNumber (ds : List Char) : Nat :=
  ds.foldl (fun n d => n * 10 + (d.toNat - '0'.toNat)) 0

/-- Reads a run of decimal digits. -/
def scanNumber (c : Cursor) : Except Fault (Nat × Cursor) :=
  if !c.peek.isDigit then c.fault (.versionDigit c.peek)
  else
    let (ds, c) := c.span Char.isDigit
    if numberLimit < ds.length then .error (.refused (.longInt ds.length))
    else .ok (decimalNumber ds, c)

/-- Reads the version after its directive's name. -/
def scanVersion (c : Cursor) : Except Fault (Directive × Cursor) := do
  let (major, c) ← scanNumber c.skipSpaces
  if c.peek != '.' then c.fault (.versionEnd c.peek)
  else
    let (minor, c) ← scanNumber c.advance
    if isWordEnd c.peek then return (.version ⟨major, minor⟩, c)
    else c.fault (.versionEnd c.peek)

/-- Reads a handle and the name it stands for. -/
def scanHandleMeaning (v : Version) (c : Cursor) : Except Fault (Directive × Cursor) := do
  let (handle, c) ← scanHandle .directive c.skipSpaces
  if c.peek != ' ' then c.fault (.directiveSpace c.peek)
  else
    let (uri, c) ← scanUri v .directive c.skipSpaces
    if isWordEnd c.peek then return (.handle handle uri, c)
    else c.fault (.directiveSpace c.peek)

/-- Reads blanks and a comment up to the end of the line, and the line break. -/
def scanLineEnd (cause : Char → Cause) (c : Cursor) : Except Fault Cursor :=
  let c := c.skipSpaces
  let c := if c.peek == '#' then c.skipLine else c
  if isEnd c.peek then .ok ((c.takeBreak.map Prod.snd).getD c) else c.fault (cause c.peek)

/-- A character of a directive's name. -/
def isDirectiveChar (c : Char) : Bool :=
  isWordChar c || c == ':' || c == '.'

/-- Reads a directive line from its `%` on. The mark is where the directive itself stops. -/
def scanDirective (v : Version) (c : Cursor) : Except Fault ((Directive × Mark) × Cursor) := do
  let c := c.advance
  let (name, c') := c.span isDirectiveChar
  if name.isEmpty || !isWordEnd c'.peek then c'.fault (.directiveName c'.peek)
  else
    let (d, stop) ←
      if name == "YAML".toList then scanVersion c'
      else if name == "TAG".toList then scanHandleMeaning v c'
      else .ok (.other, c')
    let rest := if d == .other then stop.skipLine else stop
    let c ← scanLineEnd .directiveEnd rest
    return ((d, stop.mark), c)

end FrontMatter.Yaml
