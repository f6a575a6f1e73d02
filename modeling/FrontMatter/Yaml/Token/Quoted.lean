import FrontMatter.Yaml.Token.Basic

/-!
# `FrontMatter.Yaml.Token.Quoted` — scalars in quotes

Between single quotes a doubled quote stands for one, and nothing else is special. Between double
quotes a backslash starts an escape. In both, blanks around line breaks are dropped; a single break
becomes a space, and of several breaks all but the first are kept.

## Contents

* `escapeOf?`, `escapeWidth?`: the letters of an escape.
* `scanBreaks`, `scanFold`: runs of blanks and breaks.
* `scanQuoted`: a scalar with its quotes.
-/

namespace FrontMatter.Yaml

/-- A space or a tab. -/
def isSpaceOrTab (c : Char) : Bool :=
  c == ' ' || c == '\t'

/-! ## Blanks and breaks -/

/-- Reads line breaks with the blanks around them; `done` holds the breaks, last first. A document
marker at the start of a line is a fault. -/
def scanBreaksFrom : List Char → List Char → Cursor → Except Fault (List Char × Cursor)
  | [], done, c => .ok (done.reverse, c)
  | _ :: steps, done, c =>
    if c.atDocumentMarker then c.fault .separatorInQuote
    else
      let c := c.skipWhile isSpaceOrTab
      match c.takeBreak with
      | some (b, c) => scanBreaksFrom steps (b :: done) c
      | none => .ok (done.reverse, c)

/-- Reads line breaks with the blanks around them. -/
def scanBreaks (c : Cursor) : Except Fault (List Char × Cursor) :=
  scanBreaksFrom c.steps [] c

/-- The text that a line break and the breaks after it are folded into. -/
def foldBreaks (first : Char) (more : List Char) : List Char :=
  if first != '\n' then first :: more else if more.isEmpty then [' '] else more

/-- Reads blanks inside quotes: as they are within a line, folded around breaks. -/
def scanFold (c : Cursor) : Except Fault (List Char × Cursor) := do
  let (blanks, c) := c.span isSpaceOrTab
  if c.atEnd then c.fault .unclosedQuote
  else
    match c.takeBreak with
    | some (b, c) =>
      let (more, c) ← scanBreaks c
      return (foldBreaks b more, c)
    | none => return (blanks, c)

/-! ## Escapes -/

/-- The character that a single letter after a backslash stands for. -/
def escapeOf? : Char → Option Char
  | '0' => some '\x00'
  | 'a' => some '\x07'
  | 'b' => some '\x08'
  | 't' => some '\t'
  | '\t' => some '\t'
  | 'n' => some '\n'
  | 'v' => some '\x0b'
  | 'f' => some '\x0c'
  | 'r' => some '\r'
  | 'e' => some '\x1b'
  | ' ' => some ' '
  | '"' => some '"'
  | '/' => some '/'
  | '\\' => some '\\'
  | 'N' => some '\u0085'
  | '_' => some '\u00A0'
  | 'L' => some '\u2028'
  | 'P' => some '\u2029'
  | _ => none

/-- The number of hexadecimal digits after a letter. -/
def escapeWidth? : Char → Option Nat
  | 'x' => some 2
  | 'u' => some 4
  | 'U' => some 8
  | _ => none

/-- The character of a number, if there is one. The numbers from U+D800 to U+DFFF are halves of
pairs. A text holds no half by itself, so each half outside a pair becomes U+0000, and texts that
differ in such halves only are read as the same text. -/
def charOfNumber (n : Nat) : Except Fault Char :=
  if n < 0x110000 then .ok (Char.ofNat n)
  else .error (.refused (if n < 0x80000000 then .noCharacter else .hugeCharacter))

/-- Reads the second of two escapes that together name one character, as in UTF-16; `first` is the
number of the first one. -/
def scanSecondHalf? (first : Nat) (c : Cursor) : Option (Char × Cursor) :=
  if 0xD800 ≤ first && first < 0xDC00 && c.peek == '\\' && c.peekAt 1 == 'u' then
    let digits := (List.range 4).map fun i => c.peekAt (i + 2)
    let second := hexNumber digits
    if digits.all isHexDigit && 0xDC00 ≤ second && second < 0xE000 then
      some (Char.ofNat (0x10000 + (first - 0xD800) * 0x400 + (second - 0xDC00)), c.skip 6)
    else none
  else none

/-- Reads what follows a backslash. -/
def scanEscape (c : Cursor) : Except Fault (List Char × Cursor) := do
  match escapeOf? c.peek with
  | some x => return ([x], c.advance)
  | none =>
    match escapeWidth? c.peek with
    | some width =>
      let c := c.advance
      let digits := (List.range width).map c.peekAt
      match digits.find? fun d => !isHexDigit d with
      | some d => c.fault (.escapeDigits width d)
      | none =>
        let n := hexNumber digits
        match scanSecondHalf? n (c.skip width) with
        | some (x, c) => return ([x], c)
        | none =>
          let x ← charOfNumber n
          return ([x], c.skip width)
    | none =>
      match c.takeBreak with
      | some (_, c) => scanBreaks c
      | none => c.fault (.unknownEscape c.peek)

/-! ## The scalar -/

/-- A character that stands for itself between quotes of either kind. -/
def isOrdinary (c : Char) : Bool :=
  !(isStop c || c == '\'' || c == '"' || c == '\\')

/-- Reads up to and including the closing quote; `done` holds the text so far, last first. -/
def scanQuotedFrom (double : Bool) :
    List Char → List Char → Cursor → Except Fault (List Char × Cursor)
  | [], done, c => .ok (done.reverse, c)
  | _ :: steps, done, c => do
    let (run, c) := c.span isOrdinary
    let done := run.reverse ++ done
    let x := c.peek
    if double && x == '"' then return (done.reverse, c.advance)
    else if double && x == '\\' then
      let (ys, c) ← scanEscape c.advance
      scanQuotedFrom double steps (ys.reverse ++ done) c
    else if !double && x == '\'' then
      if c.peekAt 1 == '\'' then scanQuotedFrom double steps ('\'' :: done) (c.skip 2)
      else return (done.reverse, c.advance)
    else if x == '\'' || x == '"' || x == '\\' then
      scanQuotedFrom double steps (x :: done) c.advance
    else
      let (ys, c) ← scanFold c
      scanQuotedFrom double steps (ys.reverse ++ done) c

/-- Reads a scalar from its opening quote on. -/
def scanQuoted (double : Bool) (c : Cursor) : Except Fault (String × Cursor) := do
  let (cs, c) ← scanQuotedFrom double c.steps [] c.advance
  return (String.ofList cs, c)

end FrontMatter.Yaml
