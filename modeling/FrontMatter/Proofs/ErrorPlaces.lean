import FrontMatter.Proofs.ClaimedIds
import FrontMatter.Proofs.DataPlaces
import FrontMatter.Proofs.ExcerptWindows
import FrontMatter.Proofs.FindingLines
import FrontMatter.Proofs.TextLines

/-!
# `FrontMatter.Proofs.ErrorPlaces` — errors are at places of the text

Every fault with a place is at one that a cursor comes to on its way through the text. A cursor that
has read some characters is in their last line, not further right than the line is long; so the
error of a block is at a line of the block, and not beyond the character after its end. A block is
followed by another line in its document, so the line is one of the document too, and a report has
something to show.

## Contents

* `Mark.IsAfter`, `isAfter_of_reaches`: the place after some characters.
* `IsPlaceIn`, `isPlaceIn_of_ahead`: the lines and columns of a text.
* `BeginsNextLine`, `beginsNextLine_of_extract?`: from the lines of a block to those of a document.
* `Diagnostic.Records`, `judge_of_error`: the finding that a run records for an error.
* `ShowsSnippet`, `report_showsSnippet`: reports with lines of the file around a finding.
* `parseErrors_lie_in_text`: the places of all errors.
-/

namespace FrontMatter

open Text (splitLines)

namespace Yaml

/-! ## Places after characters -/

/-- A place in the last line of what has been read, not further right than the line is long. -/
def Mark.IsAfter (m : Mark) (read : List Char) : Prop :=
  ∃ before last, splitLines read = before ++ [last] ∧ m.line = before.length
    ∧ m.column ≤ last.length

/-- The place before the first character. -/
theorem Mark.isAfter_start : Mark.start.IsAfter [] :=
  ⟨[], [], splitLines_nil, rfl, Nat.le_refl 0⟩

/-- One more character, which is no carriage return. -/
theorem Mark.IsAfter.past {m : Mark} {read : List Char} (h : m.IsAfter read) {c : Char}
    (hc : c ≠ '\r') (rest : List Char) : (m.past c rest).IsAfter (read ++ [c]) := by
  obtain ⟨before, last, hlines, hline, hcolumn⟩ := h
  by_cases hfeed : c = '\n'
  · subst hfeed
    refine ⟨before ++ [last], [], ?_, ?_, Nat.zero_le _⟩
    · rw [splitLines_append_feed, splitLines_nil, hlines]
    · simp [Mark.past, hline]
  · obtain ⟨before', last', hlines', happend⟩ := splitLines_append_right read
    obtain ⟨rfl, hlast⟩ := List.append_inj' (hlines'.symm.trans hlines) rfl
    obtain rfl := List.singleton_inj.mp hlast
    have hpast : (m.past c rest).line = m.line ∧ (m.past c rest).column ≤ m.column + 1 := by
      unfold Mark.past
      rw [if_neg (by simp [hfeed, hc])]
      split
      · exact ⟨rfl, Nat.le_succ _⟩
      · exact ⟨rfl, Nat.le_refl _⟩
    refine ⟨before', last' ++ [c], happend [c] (by simpa using Ne.symm hfeed), ?_, ?_⟩
    · rw [hpast.1, hline]
    · rw [List.length_append, List.length_singleton]
      omega

open Cursor

/-- A cursor that is ahead has read the characters between, and is at the place after them. -/
theorem isAfter_of_reaches {c d : Cursor} (h : Reaches c d) (hreturn : '\r' ∉ c.rest)
    {read : List Char} (hread : c.mark.IsAfter read) :
    ∃ more, c.rest = more ++ d.rest ∧ d.mark.IsAfter (read ++ more) := by
  induction h generalizing read with
  | refl c => exact ⟨[], rfl, by rwa [List.append_nil]⟩
  | @step c d _ ih =>
    cases hrest : c.rest with
    | nil =>
      have hsame : c.advance = c := by
        unfold Cursor.advance
        rw [hrest]
      rw [hsame] at ih
      rw [← hrest]
      exact ih hreturn hread
    | cons x rest =>
      have hnext : c.advance = ⟨rest, c.mark.past x rest⟩ := by
        unfold Cursor.advance
        rw [hrest]
      rw [hrest, List.mem_cons, not_or] at hreturn
      rw [hnext] at ih
      obtain ⟨more, hmore, hafter⟩ := ih hreturn.2 (hread.past (Ne.symm hreturn.1) rest)
      refine ⟨x :: more, ?_, ?_⟩
      · rw [List.cons_append, ← hmore]
      · rwa [List.append_assoc] at hafter

/-- A place that a cursor before a text comes to is in a line of the text. -/
theorem exists_line_of_ahead {text : String} (hreturn : '\r' ∉ text.toList) {m : Mark}
    (h : (Cursor.ofText text).Ahead m) :
    ∃ line, (splitLines text.toList)[m.line]? = some line ∧ m.column ≤ line.length := by
  obtain ⟨d, hreach, rfl⟩ := h
  obtain ⟨read, hread, before, last, hlines, hline, hcolumn⟩ :=
    isAfter_of_reaches hreach hreturn Mark.isAfter_start
  have hlast : (splitLines read)[d.mark.line]? = some last := by
    rw [← List.nil_append read, hlines, hline, List.getElem?_concat_length]
  obtain ⟨rest, hrest⟩ := Block.getElem?_splitLines_append d.rest hlast
  refine ⟨last ++ rest, ?_, ?_⟩
  · rw [show text.toList = read ++ d.rest from hread, hrest]
  · rw [List.length_append]
    omega

end Yaml

open Block (extract?)

/-! ## Places of a text -/

/-- A line of a text and a column of this line, counted from one; the column may be the one after
the last character. -/
structure IsPlaceIn (text : String) (line column : Int) : Prop where
  line_pos : 1 ≤ line
  line_le : line ≤ (splitLines text.toList).length
  column_pos : 1 ≤ column
  column_le : ∀ cs, (splitLines text.toList)[(line - 1).toNat]? = some cs → column ≤ cs.length + 1

/-- A place that a cursor before a text comes to is one of the text. -/
theorem isPlaceIn_of_ahead {text : String} (hreturn : '\r' ∉ text.toList) {m : Yaml.Mark}
    (h : (Yaml.Cursor.ofText text).Ahead m) :
    IsPlaceIn text ((m.line + 1 : Nat) : Int) ((m.column + 1 : Nat) : Int) := by
  obtain ⟨line, hline, hcolumn⟩ := Yaml.exists_line_of_ahead hreturn h
  have hlt := (List.getElem?_eq_some_iff.mp hline).1
  refine ⟨by omega, by omega, by omega, fun cs hcs => ?_⟩
  rw [show (((m.line + 1 : Nat) : Int) - 1).toNat = m.line by omega, hline] at hcs
  obtain rfl := Option.some.inj hcs
  omega

/-- The errors of a block are one fault at most, for which its text has no value. -/
theorem exists_fault_of_mem_errors {text : String} {e : ParseError}
    (h : e ∈ (Document.ofBlock (some text)).errors) :
    ∃ f, valueOfText text = .error f ∧ Reading.ofText text = .error f ∧ e = faultError f := by
  change e ∈ (Document.ofReading (Reading.ofText text)).errors at h
  cases hreading : Reading.ofText text with
  | ok doc =>
    rw [hreading, Document.ofReading, errors_of_ofText hreading] at h
    cases h
  | error f =>
    rw [hreading] at h
    refine ⟨f, ?_, rfl, List.mem_singleton.mp h⟩
    unfold Reading.ofText at hreading
    split at hreading
    · cases hreading
    · split at hreading
      · next hvalue =>
        cases hreading
        exact hvalue
      · cases hreading

/-- An error with a line and a column is at a place of the text. -/
theorem isPlaceIn_of_mem_errors {text : String} (hreturn : '\r' ∉ text.toList) {e : ParseError}
    (h : e ∈ (Document.ofBlock (some text)).errors) {line column : Int}
    (hline : e.line = some line) (hcolumn : e.column = some column) :
    IsPlaceIn text line column := by
  obtain ⟨f, hvalue, -, rfl⟩ := exists_fault_of_mem_errors h
  obtain ⟨m, hm, rfl⟩ := Option.map_eq_some_iff.mp hline
  obtain ⟨m', hm', rfl⟩ := Option.map_eq_some_iff.mp hcolumn
  obtain rfl := Option.some.inj (hm.symm.trans hm')
  exact isPlaceIn_of_ahead hreturn (isAt_of_valueOfText hvalue m hm)

/-! ## Lines of the document -/

/-- A line of a block, counted from one, is the start of the next line of a document, which can be
shown. -/
def BeginsNextLine (block content : String) (line : Int) : Prop :=
  ∃ (i : Nat) (cs rest : List Char), line = i + 1 ∧ (splitLines block.toList)[i]? = some cs
    ∧ (sourceLines content)[i + 1]? = some (cs ++ rest)

/-- Every line but the last can be shown. -/
theorem getElem?_sourceLines_of_lt {content : String} {i : Nat}
    (h : i + 1 < (splitLines content.toList).length) :
    (sourceLines content)[i]? = (splitLines content.toList)[i]? := by
  unfold sourceLines
  dsimp only
  split
  · rw [List.getElem?_dropLast, if_pos (by omega)]
  · rfl

/-- Every line of a block that is not empty is the start of the next line of its document. -/
theorem beginsNextLine_of_extract? {block content : String} (h : extract? content = some block)
    (hne : block ≠ "") {line : Int} (hfirst : 1 ≤ line)
    (hlast : line ≤ (splitLines block.toList).length) : BeginsNextLine block content line := by
  obtain ⟨i, rfl⟩ : ∃ i : Nat, line = i + 1 := ⟨(line - 1).toNat, by omega⟩
  have hi : i < (splitLines block.toList).length := by omega
  obtain ⟨rest, hrest⟩ := Block.line_of_extract? h (List.getElem?_eq_getElem hi)
  refine ⟨i, _, rest, rfl, List.getElem?_eq_getElem hi, ?_⟩
  -- The closing line comes after the block, so the line is not the last one of the document.
  obtain ⟨first, after, hnone, hcontent, hfeed⟩ := Block.toList_of_extract? h
  have hfeeds : 0 < after.count '\n' := List.count_pos_iff.mpr (hfeed hne)
  rw [length_splitLines] at hi
  rw [getElem?_sourceLines_of_lt, hrest]
  rw [length_splitLines, hcontent, List.count_append, List.count_cons_self, List.count_append]
  omega

/-! ## Errors as findings -/

/-- The finding about an error of the block of a document, with its line counted in the
document. -/
structure Diagnostic.Records (d : Diagnostic) (path : String) (e : ParseError) : Prop where
  file : d.file = path
  kind : d.kind = .yamlSyntax
  message : d.message = e.message
  line : d.line = e.line.map fun n => n + 1
  suggestion : d.suggestion = e.suggestion

/-- A document with an error in its block has one finding, which records it. -/
theorem judge_of_error {text content : String} (hextract : extract? content = some text)
    {e : ParseError} (he : e ∈ (Document.ofBlock (some text)).errors) (path : String)
    (kind : DocumentKind) (context : Context) (registry : Registry) :
    ∃ d, (judge context registry (.ofMarkdown path kind.word content)).1 = [d]
      ∧ d.Records path e := by
  obtain ⟨f, -, hread, rfl⟩ := exists_fault_of_mem_errors he
  have hsource : (Source.ofMarkdown path kind.word content).read = .ok (some (.error f)) := by
    simp only [Source.ofMarkdown, Source.read, hextract, BlockInput.ofText?, hread]
  obtain ⟨schema, hschema⟩ : ∃ schema, SchemaTable.standard.get? kind = some schema := by
    cases kind <;> exact ⟨_, rfl⟩
  have hcheck : checkDocument SchemaTable.standard context kind.word path
      { errors := [faultError f] } registry
      = (.ok [readingFinding path (faultError f)], registry) :=
    checkDocument_of_errors (DocumentKind.ofWord?_word kind) hschema context path
      (List.cons_ne_nil (faultError f) []) registry
  refine ⟨(readingFinding path (faultError f)).shift 1, ?_, rfl, rfl, rfl, rfl, rfl⟩
  unfold judge
  rw [hsource]
  simp only [Option.map_some, Document.ofReading, checkSource, Source.ofMarkdown, hcheck]
  rfl

/-- The findings about each of some documents are among those about all of them. -/
theorem exists_judge_subset {sources : List Source} {s : Source} (hs : s ∈ sources)
    (context : Context) (registry : Registry) :
    ∃ before, (judge context before s).1 ⊆ (judgeAll context registry sources).1 := by
  obtain ⟨pre, post, rfl⟩ := List.append_of_mem hs
  refine ⟨(judgeAll context registry pre).2, ?_⟩
  rw [judgeAll_append, judgeAll_cons]
  exact List.subset_append_of_subset_right _ (List.subset_append_left _ _)

/-! ## Reports -/

/-- A report with a paragraph of a finding that holds lines of a file around a line, of which,
unless a negative number of lines is asked for, exactly this line is marked. -/
structure ShowsSnippet (l : ReportStyle) (output : String) (d : Diagnostic) (line : Int)
    (source : List (List Char)) : Prop where
  some_lines : excerpt l line source ≠ []
  paragraph : ∃ before after, output = String.intercalate "\n" (before ++ titleLine l d
    :: (detailLines l d ++ "" :: excerpt l line source ++ adviceLines l d) ++ after)
  marked : 0 ≤ l.contextLines → MarksLine l source line (excerpt l line source)

/-- A report shows a snippet for a finding at a line of a file whose text is known. -/
theorem report_showsSnippet (l : ReportStyle) {texts : Entries String} {ds : List Diagnostic}
    {d : Diagnostic} (hd : d ∈ ds) {line : Int} (hline : d.line = some line) {content : String}
    (hcontent : texts.get? d.file = some content) (hfirst : 1 ≤ line)
    (hlast : line ≤ (sourceLines content).length) :
    ShowsSnippet l (report l (SourceLines.ofTexts texts) ds) d line (sourceLines content) := by
  have hshown : excerpt l line (sourceLines content) ≠ [] := by
    rw [ne_eq, excerpt_eq_nil_iff]
    omega
  refine ⟨hshown, exists_report_excerpt l hd hline hcontent hshown, fun hcontext => ?_⟩
  obtain ⟨i, rfl⟩ : ∃ i : Nat, line = i + 1 := ⟨(line - 1).toNat, by omega⟩
  exact marksLine_excerpt hcontext (by omega)

/-! ## The places of errors -/

/-- **Errors lie in the text.** In a block without carriage returns, an error with a line and a
column is at a line of the block and at most one character after the end of this line. If the block
was found in a document, its line is the start of the next line of the document; every batch with
the document records the error at that line, and in every style the report shows lines around it,
with the content that the batch has kept if no other document has the same path. -/
theorem parseErrors_lie_in_text {text : String} (hreturn : '\r' ∉ text.toList) :
    ∀ e ∈ (Document.ofBlock (some text)).errors, ∀ line column,
      e.line = some line → e.column = some column → IsPlaceIn text line column
      ∧ ∀ path (kind : DocumentKind) content, extract? content = some text →
        BeginsNextLine text content line
        ∧ ∀ context workers state sources, .ofMarkdown path kind.word content ∈ sources →
          let run := runBatch context workers state sources
          (∃ d ∈ run.1.collector.diagnostics, d.Records path e
            ∧ ∀ l (texts : Entries String), texts.get? path = some content →
              ShowsSnippet l (report l (SourceLines.ofTexts texts) run.1.collector.diagnostics) d
                (line + 1) (sourceLines content))
          ∧ ((sources.map Source.path).Nodup → run.2.contents.get? path = some content) := by
  intro e he line column hline hcolumn
  have hplace := isPlaceIn_of_mem_errors hreturn he hline hcolumn
  refine ⟨hplace, fun path kind content hextract => ?_⟩
  have hne : text ≠ "" := by
    rintro rfl
    cases he
  have hnext := beginsNextLine_of_extract? hextract hne hplace.line_pos hplace.line_le
  refine ⟨hnext, fun context workers state sources hmem => ?_⟩
  refine ⟨?_, fun hpaths => get?_contents_runBatch context workers state hpaths hmem rfl⟩
  obtain ⟨registry, hsubset⟩ := exists_judge_subset
    ((sortSources_perm sources).mem_iff.mpr hmem) context state.registry
  obtain ⟨d, hjudge, hrecords⟩ := judge_of_error hextract he path kind context registry
  have hd : d ∈ (runBatch context workers state sources).1.collector.diagnostics := by
    rw [(runBatch_eq context workers state sources).1]
    exact List.mem_append_right _ (hsubset (hjudge ▸ List.mem_singleton_self d))
  refine ⟨d, hd, hrecords, fun l texts htexts => ?_⟩
  obtain ⟨i, cs, rest, rfl, -, hshown⟩ := hnext
  have hlt := (List.getElem?_eq_some_iff.mp hshown).1
  refine report_showsSnippet l hd ?_ (by rw [hrecords.file, htexts]) (by omega) (by omega)
  rw [hrecords.line, hline]
  rfl

/-- A document with a list in its block that is not closed. -/
def unclosedList : String :=
  "---\nid: a\nversion: [x\n---\n"

/-- Its block. -/
def unclosedBlock : String :=
  "id: a\nversion: [x"

/-- The error about the list is after the last character of the block. -/
theorem parseErrors_lie_in_unclosedBlock : '\r' ∉ unclosedBlock.toList
    ∧ extract? unclosedList = some unclosedBlock
    ∧ ∃ e ∈ (Document.ofBlock (some unclosedBlock)).errors, e.line = some 2 ∧ e.column = some 12
      ∧ IsPlaceIn unclosedBlock 2 12 ∧ BeginsNextLine unclosedBlock unclosedList 2
      ∧ let run := runBatch ⟨"1.0.0", []⟩ 1 {} [.ofMarkdown "docs/tenets/a.md" "tenet" unclosedList]
        ∃ d ∈ run.1.collector.diagnostics, d.line = some 3
          ∧ ShowsSnippet ⟨true, 1⟩ (report ⟨true, 1⟩ (SourceLines.ofTexts run.2.contents)
            run.1.collector.diagnostics) d 3 (sourceLines unclosedList) := by
  have hreturn : '\r' ∉ unclosedBlock.toList := by decide
  have hextract : extract? unclosedList = some unclosedBlock := by decide
  obtain ⟨e, he, hline, hcolumn⟩ : ∃ e ∈ (Document.ofBlock (some unclosedBlock)).errors,
      e.line = some 2 ∧ e.column = some 12 := by
    decide +kernel
  obtain ⟨hplace, hdocument⟩ := parseErrors_lie_in_text hreturn e he 2 12 hline hcolumn
  obtain ⟨hnext, hbatch⟩ := hdocument "docs/tenets/a.md" .tenet unclosedList hextract
  obtain ⟨⟨d, hd, hrecords, hsnippet⟩, hkept⟩ := hbatch ⟨"1.0.0", []⟩ 1 {} [_] List.mem_cons_self
  refine ⟨hreturn, hextract, e, he, hline, hcolumn, hplace, hnext, d, hd, ?_, ?_⟩
  · rw [hrecords.line, hline]
    rfl
  · exact hsnippet ⟨true, 1⟩ _ (hkept (List.nodup_singleton _))

end FrontMatter
