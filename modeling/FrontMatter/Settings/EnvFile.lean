import FrontMatter.Text.Blank
import FrontMatter.Value.Table

/-!
# `FrontMatter.Settings.EnvFile` — variables from a file

A file of variables has lines `name = value`, with an optional `export` before the name. A value is
in single or double quotes, or it is the rest of the line up to a comment. A line that cannot be
read is skipped. Values may refer to other variables, as in `${name}` or with a default,
`${name:-default}`.

## Contents

* `takeQuoted?`, `decodeEscapes`: values in quotes.
* `Assignment`, `readAssignment`: one line.
* `assignments`: all lines.
* `expand`, `readVariables`: values with their references resolved.
-/

namespace FrontMatter.EnvFile

open Text (isBlank trim)

/-! ## Values -/

/-- A blank within a line. -/
def isInlineBlank (c : Char) : Bool :=
  isBlank c && c != '\n'

/-- Takes what stands before the closing quote `q`. A backslash and the character after it belong
together, so that character does not close. `done` is what has been taken, last first. -/
def takeQuoted? (q : Char) (done : List Char) : List Char → Option (List Char × List Char)
  | [] => none
  | [c] => if c == q then some (done.reverse, []) else none
  | c :: d :: rest =>
    if c == q then some (done.reverse, d :: rest)
    else if c == '\\' then takeQuoted? q (d :: c :: done) rest
    else takeQuoted? q (c :: done) (d :: rest)

/-- The escapes between double quotes. -/
def doubleEscapes : List (Char × Char) :=
  [('\\', '\\'), ('\'', '\''), ('"', '"'), ('a', '\x07'), ('b', '\x08'), ('f', '\x0c'), ('n', '\n'),
   ('r', '\r'), ('t', '\t'), ('v', '\x0b')]

/-- The escapes between single quotes. -/
def singleEscapes : List (Char × Char) :=
  [('\\', '\\'), ('\'', '\'')]

/-- Replaces escapes; a backslash before any other character stays. -/
def decodeEscapes (escapes : List (Char × Char)) : List Char → List Char
  | [] => []
  | [c] => [c]
  | c :: d :: rest =>
    if c == '\\' then
      match escapes.lookup d with
      | some x => x :: decodeEscapes escapes rest
      | none => c :: decodeEscapes escapes (d :: rest)
    else c :: decodeEscapes escapes (d :: rest)

/-- What stands before the first comment, which is a `#` after a blank. -/
def beforeComment : List Char → List Char
  | [] => []
  | [c] => [c]
  | c :: d :: rest => if isBlank c && d == '#' then [] else c :: beforeComment (d :: rest)

/-- A value that is not in quotes. -/
def plainValue (line : List Char) : List Char :=
  trim isBlank (beforeComment line)

/-- Takes the value after the equals sign and blanks; none if a quote is not closed. -/
def takeValue? (cs : List Char) : Option (List Char × List Char) :=
  match cs.dropWhile isInlineBlank with
  | '\'' :: rest =>
    (takeQuoted? '\'' [] rest).map fun r => (decodeEscapes singleEscapes r.1, r.2)
  | '"' :: rest =>
    (takeQuoted? '"' [] rest).map fun r => (decodeEscapes doubleEscapes r.1, r.2)
  | _ => some (plainValue (cs.takeWhile (· != '\n')), cs.dropWhile (· != '\n'))

/-! ## Lines -/

/-- A variable with its value, if it has one. -/
structure Assignment where
  name : String
  value : Option String
  deriving Repr, DecidableEq

/-- Drops the word `export` and the blanks after it. -/
def dropExport (cs : List Char) : List Char :=
  if "export".toList.isPrefixOf cs then
    match cs.drop 6 with
    | c :: rest => if isInlineBlank c then rest.dropWhile isInlineBlank else cs
    | [] => cs
  else cs

/-- Takes a name: in single quotes, or up to a blank, `=` or `#`. A comment has no name. -/
def takeName? : List Char → Option (Option (List Char) × List Char)
  | [] => none
  | '#' :: rest => some (none, '#' :: rest)
  | '\'' :: rest =>
    let name := rest.takeWhile (· != '\'')
    match rest.dropWhile (· != '\'') with
    | [] => none
    | _ :: after => if name.isEmpty then none else some (some name, after)
  | cs =>
    let isNameChar := fun c => c != '=' && c != '#' && !isBlank c
    let name := cs.takeWhile isNameChar
    if name.isEmpty then none else some (some name, cs.dropWhile isNameChar)

/-- Takes an equals sign and the value after it, if there is one. -/
def takeAssigned? : List Char → Option (Option (List Char) × List Char)
  | '=' :: rest => (takeValue? rest).map fun r => (some r.1, r.2)
  | cs => some (none, cs)

/-- Takes the end of a line, with blanks and a comment before it. -/
def takeLineEnd? (cs : List Char) : Option (List Char) :=
  let rest := cs.dropWhile isInlineBlank
  let rest := if rest.head? == some '#' then rest.dropWhile (· != '\n') else rest
  match rest with
  | [] => some []
  | '\n' :: after => some after
  | _ => none

/-- Reads a line that starts with something else than a blank; gives the assignment, if it is one,
and what follows the line. Of a line that cannot be read, `Except.error` gives what was not read. -/
def readAssignment (cs : List Char) : Except (List Char) (Option Assignment × List Char) :=
  let cs := dropExport cs
  match takeName? cs with
  | none => .error cs
  | some (name, rest) =>
    let rest := rest.dropWhile isInlineBlank
    match takeAssigned? rest with
    | none => .error (rest.drop 1)
    | some (value, rest) =>
      match takeLineEnd? rest with
      | none => .error rest
      | some after =>
        .ok (name.map fun n => ⟨String.ofList n, value.map String.ofList⟩, after)

/-- All assignments of a text; `fuel` bounds the number of lines. -/
def readAssignments : Nat → List Char → List Assignment
  | 0, _ => []
  | fuel + 1, cs =>
    match cs.dropWhile isBlank with
    | [] => []
    | cs =>
      match readAssignment cs with
      | .ok (a, rest) => a.toList ++ readAssignments fuel rest
      | .error rest => readAssignments fuel ((rest.dropWhile (· != '\n')).drop 1)

/-- A text without the byte order mark that it may start with. -/
def dropOrderMark : List Char → List Char
  | '\uFEFF' :: rest => rest
  | cs => cs

/-- All assignments of a text. Every line takes up at least one character. -/
def assignments (text : String) : List Assignment :=
  readAssignments (text.length + 1) (dropOrderMark text.toList)

/-! ## References -/

/-- A reference to a variable, with a default. -/
structure Reference where
  name : String
  default : String

/-- Takes what follows the opening of a reference. -/
def takeReference? (cs : List Char) : Option (Reference × List Char) :=
  let isNameChar := fun c => c != '\x7d' && c != ':'
  let name := String.ofList (cs.takeWhile isNameChar)
  match cs.dropWhile isNameChar with
  | '\x7d' :: after => some (⟨name, ""⟩, after)
  | ':' :: '-' :: rest =>
    match rest.dropWhile (· != '\x7d') with
    | _ :: after => some (⟨name, String.ofList (rest.takeWhile (· != '\x7d'))⟩, after)
    | [] => none
  | _ => none

/-- A text with its references replaced; `fuel` bounds the number of characters. -/
def expandFrom (resolve : Reference → String) : Nat → List Char → List Char
  | 0, cs => cs
  | _, [] => []
  | fuel + 1, c :: rest =>
    match c, rest with
    | '$', '\x7b' :: body =>
      match takeReference? body with
      | some (r, after) => (resolve r).toList ++ expandFrom resolve fuel after
      | none => c :: expandFrom resolve fuel rest
    | c, rest => c :: expandFrom resolve fuel rest

/-- A text with its references replaced. -/
def expand (resolve : Reference → String) (text : String) : String :=
  String.ofList (expandFrom resolve text.length text.toList)

/-- The value of a reference: from the file as far as it has been read, else from the environment,
else the default. A variable without a value is empty. -/
def Reference.value (environment : Entries String) (known : Entries (Option String))
    (r : Reference) : String :=
  match known.get? r.name with
  | some v => v.getD ""
  | none => (environment.get? r.name).getD r.default

/-- The variables of a text, with the references in their values replaced. -/
def readVariables (environment : Entries String) (text : String) : Entries (Option String) :=
  (assignments text).foldl
    (fun known a => known.put a.name (a.value.map (expand (Reference.value environment known)))) []

end FrontMatter.EnvFile
