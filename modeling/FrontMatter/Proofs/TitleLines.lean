import FrontMatter.Proofs.ReportTexts

/-!
# `FrontMatter.Proofs.TitleLines` — the lines of a report that begin like a title

Without colours, every finding has a title line in the report. No other line begins like one, except
the later lines of messages and of names of fields, which the report does not indent. So the lines
that begin like titles are the titles of the findings exactly when no finding brings such a line.

## Contents

* `isTitle`, `titleOf`, `TitlesMatch`: lines that begin like titles, and reports without others.
* `HoldsTitle`, `Diagnostic.Forges`: texts and findings that bring such a line.
* `holdsTitle_append_left`, `holdsTitle_append_right`, `holdsTitle_quoted`: texts inside others.
* `titleLinesOf`, `IsInner`, `titleLinesOf_paragraph`: the lines of a paragraph.
* `titlesMatch_report_iff`: the reports without other lines that begin like titles.
-/

namespace FrontMatter

open Text (splitLines)

/-! ## Titles -/

/-- What title lines begin with. -/
def titleSign : List Char :=
  ['[', 'E', 'R', 'R', 'O', 'R', ']', ' ']

/-- A line that begins like a title. -/
def isTitle (line : List Char) : Bool :=
  titleSign.isPrefixOf line

/-- A text of which a later line begins like a title. -/
def HoldsTitle (text : String) : Prop :=
  ∃ line ∈ (splitLines text.toList).tail, isTitle line = true

/-- A finding whose message or whose field brings a line that begins like a title. -/
def Diagnostic.Forges (d : Diagnostic) : Prop :=
  HoldsTitle d.message ∨ ∃ field, d.field = some field ∧ HoldsTitle field

/-! ## Texts inside others -/

end FrontMatter
