import FrontMatter.Yaml.Token.Directive
import FrontMatter.Yaml.Token.Quoted

/-!
# `FrontMatter.Yaml.Token.BlockText` — literal and folded scalars

A block scalar is a header, `|` or `>` with indicators, and lines of one indentation. A literal one
keeps its line breaks, a folded one joins neighbouring lines that start with no blank. The header
says what becomes of the line breaks at the end.

## Contents

* `Chomping`, `scanBlockHeader`: the header.
* `scanLeadingBlanks`: the empty lines before the first line, which set the indentation.
* `scanIndentedBreaks`: empty lines between and after.
* `scanBlockText`: the scalar.
-/

namespace FrontMatter.Yaml

/-- What becomes of the line breaks at the end: one is kept, none is, or all are. -/
inductive Chomping
  | clip
  | drop
  | keep
  deriving Repr, DecidableEq

/-! ## The header -/

/-- Reads an indicator of how the end is treated, if there is one. -/
def scanChomping (c : Cursor) : Chomping × Cursor :=
  if c.peek == '+' then (.keep, c.advance)
  else if c.peek == '-' then (.drop, c.advance)
  else (.clip, c)

/-- Reads an indicator of the indentation, if there is one. -/
def scanIndentation (c : Cursor) : Except Fault (Option Nat × Cursor) :=
  if c.peek == '0' then c.fault .zeroIndentation
  else if c.peek.isDigit then .ok (some (c.peek.toNat - '0'.toNat), c.advance)
  else .ok (none, c)

/-- Reads the indicators, in either order, and the rest of the header's line. -/
def scanBlockHeader (c : Cursor) : Except Fault ((Chomping × Option Nat) × Cursor) := do
  let (first, c₁) := scanChomping c
  let (depth, c₂) ← scanIndentation c₁
  let (chomping, c₃) := if first == .clip && depth.isSome then scanChomping c₂ else (first, c₂)
  if !isWordEnd c₃.peek then c₃.fault (.blockHeader c₃.peek)
  else
    let c ← scanLineEnd .blockHeaderEnd c₃
    return ((chomping, depth), c)

/-! ## Empty lines -/

/-- The empty lines before the first line: their breaks (last first), the column at which the first
of them ends, and the largest column that spaces reach. -/
structure LeadingBlanks where
  breaks : List Char
  first : Option Nat
  widest : Nat

/-- Reads spaces and breaks. -/
def scanLeadingBlanksFrom : List Char → LeadingBlanks → Cursor → LeadingBlanks × Cursor
  | [], b, c => (b, c)
  | _ :: steps, b, c =>
    if c.peek == ' ' then
      let c := c.skipSpaces
      scanLeadingBlanksFrom steps { b with widest := max b.widest c.column } c
    else
      match c.takeBreak with
      | some (x, c') =>
        scanLeadingBlanksFrom steps
          { b with breaks := x :: b.breaks, first := some (b.first.getD c.column) } c'
      | none => (b, c)

/-- Reads the empty lines before the first line. It is a fault if the first of them is indented and
a later one is indented more. -/
def scanLeadingBlanks (c : Cursor) : Except Fault (LeadingBlanks × Cursor) :=
  let (b, c) := scanLeadingBlanksFrom c.steps ⟨[], none, 0⟩ c
  match b.first with
  | some n => if 0 < n && n < b.widest then c.fault .deeperLine else .ok (b, c)
  | none => .ok (b, c)

/-- Moves over spaces up to a column. -/
def skipIndentation (indent : Nat) : Nat → Cursor → Cursor
  | 0, c => c
  | fuel + 1, c =>
    if c.column < indent && c.peek == ' ' then skipIndentation indent fuel c.advance else c

/-- Reads empty lines, and the indentation of the next line; `done` holds the breaks, last first. -/
def scanIndentedBreaksFrom (indent : Nat) : List Char → List Char → Cursor → List Char × Cursor
  | [], done, c => (done, c)
  | _ :: steps, done, c =>
    let c := skipIndentation indent indent c
    match c.takeBreak with
    | some (b, c) => scanIndentedBreaksFrom indent steps (b :: done) c
    | none => (done, c)

/-- Reads empty lines, and the indentation of the next line. The breaks come last first. -/
def scanIndentedBreaks (indent : Nat) (c : Cursor) : List Char × Cursor :=
  scanIndentedBreaksFrom indent c.steps [] c

/-! ## The scalar -/

/-- Whether a line of the scalar is next. -/
def atLine (indent : Nat) (c : Cursor) : Bool :=
  c.column == indent && !c.atEnd

/-- What the line break between two lines becomes: `breaks` are those of the empty lines between. -/
def joinLine (folded : Bool) (lineBreak : List Char) (startsBlank nextBlank : Bool)
    (breaks : List Char) : List Char :=
  if folded && lineBreak == ['\n'] && !startsBlank && !nextBlank then
    (if breaks.isEmpty then [' '] else [])
  else lineBreak

/-- Reads the lines. `done` holds the text so far and `breaks` those of the empty lines before the
next line, both last first. The result is the text, the last line break and the breaks after it. At
the top of a document, a document marker ends the scalar if `unindented`. -/
def scanBlockLinesFrom (folded unindented : Bool) (indent : Nat) :
    List Char → List Char → List Char → Cursor → (List Char × List Char × List Char) × Cursor
  | [], done, breaks, c => ((done, [], breaks), c)
  | _ :: steps, done, breaks, c =>
    let startsBlank := isSpaceOrTab c.peek
    let (line, c) := c.span fun x => !isEnd x
    let done := line.reverse ++ (breaks ++ done)
    let (lineBreak, c) :=
      match c.takeBreak with
      | some (b, c) => ([b], c)
      | none => ([], c)
    let (breaks, c) := scanIndentedBreaks indent c
    if unindented && c.column == 0 && c.atDocumentMarker then ((done, lineBreak, breaks), c)
    else if atLine indent c then
      let join := joinLine folded lineBreak startsBlank (isSpaceOrTab c.peek) breaks
      scanBlockLinesFrom folded unindented indent steps (join ++ done) breaks c
    else ((done, lineBreak, breaks), c)

/-- Reads a block scalar from its `|` or `>` on; `least` is the least column of its lines. -/
def scanBlockText (folded : Bool) (least : Nat) (c : Cursor) : Except Fault (String × Cursor) := do
  let ((chomping, depth), c) ← scanBlockHeader c.advance
  let (breaks, indent, c) ←
    match depth with
    | some n =>
      let indent := max least 1 + n - 1
      let (breaks, c) := scanIndentedBreaks indent c
      pure (breaks, indent, c)
    | none => do
      let (b, c) ← scanLeadingBlanks c
      pure (b.breaks, max least b.widest, c)
  let ((done, lineBreak, breaks), c) :=
    if atLine indent c then
      scanBlockLinesFrom folded (depth.isNone && least == 0) indent c.steps [] breaks c
    else (([], [], breaks), c)
  let ending :=
    match chomping with
    | .clip => lineBreak
    | .drop => []
    | .keep => breaks ++ lineBreak
  return (String.ofList (ending ++ done).reverse, c)

end FrontMatter.Yaml
