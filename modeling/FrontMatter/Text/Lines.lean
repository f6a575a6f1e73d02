/-!
# `FrontMatter.Text.Lines` — the lines of a text

A line ends at a line feed; the text after the last line feed is a line too. Files are read with
every kind of line end turned into a line feed.

## Contents

* `splitLines`, `joinLines`: a text as its lines, and back.
* `unifyBreaks`: carriage returns, alone or before a line feed, become line feeds.
-/

namespace FrontMatter.Text

/-- The lines of a text: what stands between its line feeds. -/
def splitLines (cs : List Char) : List (List Char) :=
  cs.splitOn '\n'

/-- Lines with line feeds between them. -/
def joinLines (ls : List (List Char)) : List Char :=
  ['\n'].intercalate ls

/-- Lines without line feeds are found again. -/
theorem splitLines_joinLines (ls : List (List Char)) (h : ∀ l ∈ ls, '\n' ∉ l) (hne : ls ≠ []) :
    splitLines (joinLines ls) = ls :=
  List.splitOn_intercalate '\n' h hne

/-- The text with single line feeds as its only line ends; `done` holds what is read, last first. -/
def unifyBreaksFrom (done : List Char) : List Char → List Char
  | [] => done.reverse
  | '\r' :: '\n' :: rest => unifyBreaksFrom ('\n' :: done) rest
  | c :: rest => unifyBreaksFrom ((if c == '\r' then '\n' else c) :: done) rest

/-- The text with single line feeds as its only line ends. -/
def unifyBreaks (s : String) : String :=
  String.ofList (unifyBreaksFrom [] s.toList)

end FrontMatter.Text
