import FrontMatter.Diagnostic.Basic
import FrontMatter.Text.Ansi
import FrontMatter.Text.Blank
import FrontMatter.Text.Lines
import FrontMatter.Text.Path
import FrontMatter.Value.Table
import FrontMatter.Value.Text

/-!
# `FrontMatter.Report.Text` — findings as a report for people

A report has a heading and one paragraph for each finding: where and what it is, the lines around
it, and advice. The parts are given for every line that a finding can have. A line with more digits
than are written is refused in the end, and there is no report then.

## Contents

* `ReportStyle`: whether colours are used, and how many lines are shown around a finding.
* `SourceLines`: the lines of the files that can be shown.
* `excerpt`: the lines around a finding.
* `paragraph`, `report`: one finding, and all of them.
* `reportText`: the report, or its refusal.
-/

namespace FrontMatter

open Text (Colour Path Style splitLines styled trimEnd)

/-- How a report looks. -/
structure ReportStyle where
  colours : Bool
  contextLines : Int

/-- A text in a style, where styles are used. -/
def ReportStyle.apply (l : ReportStyle) (s : Style) (text : String) : String :=
  if l.colours then styled s text else text

/-- A text in a colour, where colours are used. -/
def ReportStyle.paint (l : ReportStyle) (c : Colour) (text : String) : String :=
  l.apply ⟨some c, false⟩ text

/-! ## The lines of files -/

/-- The lines of a text; a line feed at the end starts no further line. -/
def sourceLines (content : String) : List (List Char) :=
  let ls := splitLines content.toList
  if ls.getLast? == some [] then ls.dropLast else ls

/-- The lines of files, by the names of the files; a file that cannot be shown has none. -/
abbrev SourceLines := Entries (List (List Char))

/-- The lines of files whose texts are known. -/
def SourceLines.ofTexts (texts : Entries String) : SourceLines :=
  texts.map fun e => (e.1, sourceLines e.2)

/-- A file that is named by a path, or by a text as it stands. -/
structure FileName where
  isPath : Bool
  name : String
  deriving Repr, DecidableEq

/-- A name; a path is brought into its one written form. -/
def FileName.make (isPath : Bool) (name : String) : FileName :=
  ⟨isPath, if isPath then Path.normalize name else name⟩

/-- The lines of files of which some are named by paths. Of two files with one name of the same sort
the later one counts, in the place of the earlier; then the same holds of a path and a text. -/
def SourceLines.ofNames (files : List (FileName × Option String)) : SourceLines :=
  let distinct : Table FileName (Option String) := Table.ofList files
  Table.ofList (distinct.map fun e => (e.1.name, (e.2.map sourceLines).getD []))

/-! ## Excerpts -/

/-- The greatest width of a line in an excerpt. -/
def maxWidth : Nat := 80

/-- A line as an excerpt shows it: without carriage returns at its end, and cut if it is too
long. -/
def shownLine (line : List Char) : String :=
  let cs := trimEnd (· == '\r') line
  String.ofList (if maxWidth < cs.length then cs.take (maxWidth - 3) ++ ['.', '.', '.'] else cs)

/-- A text filled up with spaces on the left. -/
def padLeft (width : Nat) (s : String) : String :=
  String.ofList (List.replicate (width - s.length) ' ') ++ s

/-- A line of an excerpt. -/
def excerptLine (l : ReportStyle) (width number : Nat) (isMarked : Bool) (line : List Char) :
    String :=
  let shown := padLeft width (toString number)
  let text := shownLine line
  if isMarked then
    "      " ++ l.paint .red shown ++ " " ++ l.paint .red (if l.colours then "→" else ">") ++ " "
      ++ l.paint .red text
  else "      " ++ l.paint .brightBlack shown ++ " │ " ++ l.paint .brightBlack text

/-- The lines around a line, counted from one; nothing if there is no such line. -/
def excerpt (l : ReportStyle) (line : Int) (source : List (List Char)) : List String :=
  let index := line - 1
  if index < 0 || (source.length : Int) ≤ index then []
  else
    let start := (max 0 (index - l.contextLines)).toNat
    let stop := (min (source.length : Int) (index + l.contextLines + 1)).toNat
    let width := max 3 (toString stop).length
    let window := ((source.drop start).take (stop - start)).zipIdx (start + 1)
    l.paint .blue "    context:"
      :: window.map fun e => excerptLine l width e.2 ((e.2 : Int) == line) e.1

/-! ## Paragraphs -/

/-- The first line of a paragraph: where the finding is, and what it is. A line that is too long to
be written is not told apart here; `reportText` refuses it. -/
def titleLine (l : ReportStyle) (d : Diagnostic) : String :=
  let place := d.file ++ (d.line.map fun n => ":" ++ toString n).getD ""
  l.paint .red (if l.colours then "✗" else "[ERROR]") ++ " " ++ l.apply ⟨none, true⟩ place ++ " — "
    ++ d.message

/-- The lines that name field and kind. -/
def detailLines (l : ReportStyle) (d : Diagnostic) : List String :=
  let field := d.field.getD ""
  (if field == "" then [] else [l.paint .brightBlack ("    field '" ++ field ++ "'")])
    ++ [l.paint .brightBlack ("    type: " ++ d.kind.word)]

/-- The lines around a finding, after an empty line, if they are known. -/
def excerptLines (l : ReportStyle) (d : Diagnostic) (source : List (List Char)) : List String :=
  match d.line with
  | none => []
  | some n =>
    match excerpt l n source with
    | [] => []
    | ls => "" :: ls

/-- The lines of advice. -/
def adviceLines (l : ReportStyle) (d : Diagnostic) : List String :=
  let advice := d.suggestion.getD ""
  if advice == "" then []
  else
    l.paint .cyan "    suggestion:"
      :: (splitLines advice.toList).map fun line => l.paint .cyan ("      " ++ String.ofList line)

/-- The paragraph of a finding. -/
def paragraph (l : ReportStyle) (sources : SourceLines) (d : Diagnostic) : List String :=
  titleLine l d :: (detailLines l d ++ excerptLines l d ((sources.get? d.file).getD [])
    ++ adviceLines l d)

/-! ## The report -/

/-- A number of things, with the word for one or for several. -/
def counted (n : Nat) (one several : String) : String :=
  toString n ++ " " ++ (if n == 1 then one else several)

/-- The number of files that findings are in. -/
def fileCount (ds : List Diagnostic) : Nat :=
  (ds.foldl (fun files d => files.insert d.file) []).length

/-- The heading of a report. -/
def heading (ds : List Diagnostic) : String :=
  "Validation failed with " ++ counted ds.length "error" "errors" ++ " in "
    ++ counted (fileCount ds) "file" "files" ++ ":"

/-- The lines of a report: the heading and the paragraphs, with empty lines between them. -/
def reportLines (l : ReportStyle) (sources : SourceLines) (ds : List Diagnostic) : List String :=
  [l.apply ⟨some .red, true⟩ (heading ds)] ++ ds.flatMap fun d => "" :: paragraph l sources d

/-- Findings as a report; without findings it is empty. This is the report of findings whose lines
can be written. -/
def report (l : ReportStyle) (sources : SourceLines) (ds : List Diagnostic) : String :=
  if ds.isEmpty then "" else String.intercalate "\n" (reportLines l sources ds)

/-- Whether a finding can be shown: its line, if it has one, is not too long to be written. -/
def Diagnostic.canBeShown (d : Diagnostic) : Bool :=
  d.line.all fun n => (intText n).isOk

/-- Findings as a report, unless a line is too long to be written. -/
def reportText (l : ReportStyle) (sources : SourceLines) (ds : List Diagnostic) :
    Except TooLong String :=
  if ds.all Diagnostic.canBeShown then .ok (report l sources ds) else .error .mk

end FrontMatter
