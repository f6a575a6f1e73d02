/-!
# `FrontMatter.Block.Extract` — the block at the start of a document

A block starts on the first line, after a line of three hyphens, and ends before a closing line of
three hyphens with nothing but spaces and tabs after them. The line break before the closing line
is not part of the block.

## Contents

* `afterBreak?`, `afterHyphens?`: what follows a line break, and three hyphens.
* `closes`: a closing line.
* `bodyBefore?`: the text before the first closing line that stands on a line of its own.
* `extract?`: the block of a document.
-/

namespace FrontMatter.Block

/-- What follows a line break, if the text starts with one. -/
def afterBreak? : List Char → Option (List Char)
  | '\n' :: rest => some rest
  | '\r' :: '\n' :: rest => some rest
  | _ => none

/-- What follows three hyphens, if the text starts with them. -/
def afterHyphens? : List Char → Option (List Char)
  | '-' :: '-' :: '-' :: rest => some rest
  | _ => none

/-- A space or a tab. -/
def isGap (c : Char) : Bool :=
  c == ' ' || c == '\t'

/-- Whether the text starts with a closing line: the line ends with the text or at a line break. -/
def closes (cs : List Char) : Bool :=
  match afterHyphens? cs with
  | none => false
  | some rest =>
    let rest := rest.dropWhile isGap
    rest.isEmpty || (afterBreak? rest).isSome

/-- Whether the text starts with a line break and a closing line after it. -/
def endsBody (cs : List Char) : Bool :=
  match afterBreak? cs with
  | none => false
  | some rest => closes rest

/-- The shortest text before a line break and a closing line; `done` holds what stands before,
last first. -/
def bodyBefore? (done : List Char) : List Char → Option (List Char)
  | [] => none
  | c :: rest => if endsBody (c :: rest) then some done.reverse else bodyBefore? (c :: done) rest

/-- The block of a document: a body with a closing line after it, or else no line at all before the
closing line. -/
def extract? (content : String) : Option String :=
  match (afterHyphens? content.toList).bind afterBreak? with
  | none => none
  | some rest =>
    match bodyBefore? [] rest with
    | some body => some (String.ofList body)
    | none => if closes rest then some "" else none

end FrontMatter.Block
