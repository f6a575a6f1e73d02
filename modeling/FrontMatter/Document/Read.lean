import FrontMatter.Document.Basic
import FrontMatter.Text.Blank
import FrontMatter.Yaml.Data.Build
import FrontMatter.Yaml.Data.Limits
import FrontMatter.Yaml.Node.Document

/-!
# `FrontMatter.Document.Read` — reading a block

A block without anything but blanks has no content. Any other block is read as YAML, within the
limits; what goes wrong becomes the one error of the document. Reading goes on to the end of the
text however deep its nesting is: the only bound on the depth is that of the limits.

## Contents

* `Reading`: the document of a block, or the fault.
* `Reading.ofText`: reading a block.
* `Fault.parseError`, `Fault.notice?`: a fault as an error of the document, and as a log line.
* `Document.ofReading`, `Document.ofBlock`: the document, whatever has happened.
-/

namespace FrontMatter

open Yaml (Fault Violation Data)

/-! ## Reading -/

/-- The value of a text that is not too long; null where the text has no document. -/
def valueOfText (text : String) : Except Fault Value := do
  let length := text.length
  if Yaml.maxLength < length then throw (.violation (.size length Yaml.maxLength) none)
  else
    match ← Yaml.Document.ofText? text with
    | none => return .scalar .null
    | some d => (← Data.ofNode d.version d.root).restrict

/-- The lines of the keys of a mapping. -/
def Content.lines (content : Content) (text : String) : Block.LineMap :=
  match content with
  | .mapping entries => Block.LineMap.ofText text entries.holds
  | _ => []

/-- A block as a document without errors, or the fault it was turned down for. -/
abbrev Reading := Except Fault Document

/-- Reads a block. A block whose nesting would exhaust a reader with a bounded stack is read here as
any other one, and is turned down by the limit on the depth of its data. -/
def Reading.ofText (text : String) : Reading :=
  if Text.isBlankText text then .ok {}
  else
    match valueOfText text with
    | .error f => .error f
    | .ok v =>
      let content := Content.ofValue v
      .ok { content := content, lines := content.lines text }

/-! ## Faults as errors -/

/-- Advice for a block whose text is malformed. -/
def syntaxAdvice (line : Option Int) : String :=
  "Check YAML syntax around line " ++ ((line.map toString).getD "?")
    ++ ". Common issues: unquoted colons, incorrect indentation, "
    ++ "missing quotes around strings with special characters."

/-- Advice for a block that has no value. -/
def genericAdvice : String :=
  "Ensure the content is valid YAML format between --- delimiters."

/-- Advice for a block with data that may not occur. -/
def disallowedAdvice : String :=
  "Front-matter may only contain strings, numbers, booleans, null, dates, "
    ++ "lists and mappings. Remove custom '!' tags."

/-- Advice for a block with an anchor or an alias. -/
def sharedAdvice : String :=
  "Anchors (&name) and aliases (*name) are not supported in front-matter. "
    ++ "Write each value out in full."

/-- Advice for a violation. -/
def violationAdvice : Violation → String
  | .shared _ _ => sharedAdvice
  | _ => disallowedAdvice

/-- A fault in words. -/
def faultMessage : Fault → String
  | .unreadable c i => "YAML syntax error: " ++ Yaml.unreadableMessage c i
  | .malformed cause _ => "YAML syntax error: " ++ cause.message
  | .unbuildable cause _ => "Unsafe YAML in front-matter: " ++ cause.message
  | .refused r => "YAML parsing failed: " ++ r.message
  | .violation v _ => "Unsafe YAML in front-matter: " ++ v.message

/-- The advice for a fault that is said to be in a line. -/
def faultAdvice (line : Option Int) : Fault → String
  | .unreadable _ _ | .malformed _ _ => syntaxAdvice line
  | .unbuildable _ _ => disallowedAdvice
  | .refused _ => genericAdvice
  | .violation v _ => violationAdvice v

/-- A fault as the error of a document; its place is counted from one. -/
def faultError (f : Fault) : ParseError :=
  let line : Option Int := f.mark?.map fun m => ((m.line + 1 : Nat) : Int)
  { message := faultMessage f
    line := line
    column := f.mark?.map fun m => ((m.column + 1 : Nat) : Int)
    suggestion := some (faultAdvice line f) }

/-- The log line about a block with data that may not occur. -/
def faultNotice? : Fault → Option String
  | .violation v _ => some ("rejected front-matter: " ++ v.message)
  | .unbuildable cause _ => some ("rejected front-matter tag: " ++ cause.problem)
  | _ => none

/-! ## Documents -/

/-- The document of a reading: a fault leaves no content, and is its one error. -/
def Document.ofReading : Reading → Document
  | .ok d => d
  | .error f => { errors := [faultError f] }

/-- The document of a block; none at all is an empty block. -/
def Document.ofBlock (text : Option String) : Document :=
  (text.map fun t => Document.ofReading (Reading.ofText t)).getD {}

end FrontMatter
