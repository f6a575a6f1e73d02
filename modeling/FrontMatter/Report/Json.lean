import FrontMatter.Diagnostic.Basic
import FrontMatter.Text.Quoted
import FrontMatter.Value.Text

/-!
# `FrontMatter.Report.Json` — findings as a report for programs

A report is a JSON object, indented by two spaces at each level. A line with more digits than are
written is refused, and there is no report then.

## Contents

* `Json`: the values that a report is made of.
* `Json.text`: a value as indented text.
* `Diagnostic.json`, `jsonReport`: a finding, and all findings.
-/

namespace FrontMatter

/-- The values that a report is made of. A number of things that are at hand is never too long to
be written; any other whole number may be. -/
inductive Json
  | null
  | bool (b : Bool)
  | count (n : Nat)
  | int (n : Int)
  | str (s : String)
  | array (items : List Json)
  | object (fields : List (String × Json))

namespace Json

/-- One character inside quotes: the quote, the backslash and control characters are escaped. -/
def escapeChar (c : Char) : List Char :=
  if c == '"' then ['\\', '"']
  else if c == '\\' then ['\\', '\\']
  else if c == '\n' then ['\\', 'n']
  else if c == '\r' then ['\\', 'r']
  else if c == '\t' then ['\\', 't']
  else if c == '\x08' then ['\\', 'b']
  else if c == '\x0c' then ['\\', 'f']
  else if c.toNat < 0x20 then '\\' :: 'u' :: Text.hexDigits 4 c.toNat
  else [c]

/-- A text in quotes. -/
def quoted (s : String) : String :=
  String.ofList ('"' :: (s.toList.flatMap escapeChar ++ ['"']))

/-- A line break and the indentation of a level. -/
def newLine (level : Nat) : String :=
  String.ofList ('\n' :: List.replicate (2 * level) ' ')

/-- Parts between brackets, each on a line of its own; nothing but the brackets if there are
none. -/
def bracketed (level : Nat) (opening closing : Char) (parts : List String) : String :=
  if parts.isEmpty then String.ofList [opening, closing]
  else
    String.ofList [opening] ++ newLine (level + 1)
      ++ String.intercalate ("," ++ newLine (level + 1)) parts
      ++ newLine level ++ String.ofList [closing]

mutual

/-- A value as text, at a level of indentation. -/
def text (level : Nat) : Json → Except TooLong String
  | .null => .ok "null"
  | .bool b => .ok (if b then "true" else "false")
  | .count n => .ok (toString n)
  | .int n => intText n
  | .str s => .ok (quoted s)
  | .array items => do
    let parts ← itemTexts (level + 1) items
    return bracketed level '[' ']' parts
  | .object fields => do
    let parts ← fieldTexts (level + 1) fields
    return bracketed level '\x7b' '\x7d' parts

/-- The items of an array. -/
def itemTexts (level : Nat) : List Json → Except TooLong (List String)
  | [] => .ok []
  | v :: vs => do
    let t ← text level v
    let ts ← itemTexts level vs
    return t :: ts

/-- The fields of an object. -/
def fieldTexts (level : Nat) : List (String × Json) → Except TooLong (List String)
  | [] => .ok []
  | (k, v) :: fs => do
    let t ← text level v
    let ts ← fieldTexts level fs
    return (quoted k ++ ": " ++ t) :: ts

end

/-- A text that may be missing. -/
def ofText? (s : Option String) : Json :=
  (s.map Json.str).getD .null

end Json

/-- A finding as an object. -/
def Diagnostic.json (d : Diagnostic) : Json :=
  .object
    [("file", .str d.file), ("kind", .str d.kind.word), ("message", .str d.message),
     ("line", (d.line.map Json.int).getD .null), ("field", .ofText? d.field),
     ("suggestion", .ofText? d.suggestion)]

/-- Findings as a report, unless a line is too long to be written. -/
def jsonReport (ds : List Diagnostic) : Except TooLong String :=
  (Json.object
    [("valid", .bool ds.isEmpty), ("error_count", .count ds.length),
     ("errors", .array (ds.map Diagnostic.json))]).text 0

end FrontMatter
