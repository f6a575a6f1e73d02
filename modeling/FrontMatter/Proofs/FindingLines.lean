import FrontMatter.Proofs.Batches
import FrontMatter.Proofs.Excerpts
import FrontMatter.Proofs.KeyLines

/-!
# `FrontMatter.Proofs.FindingLines` — findings point at their keys

A finding about a field has the line on which the key of the field stands in the document, and the
report shows this line. A key that is missing has no line.

## Contents

* `MarkdownFile`: a document as a file holds it.
* `IsLineOfKey`, `ShowsLine`: a line that is the line of a key, and a report that shows a line.
* `finding_of_mem_judge`, `keyLine_of_gives`: the line of a finding about a field.
* `runBatch_points_at_keys`: the lines of all findings of a batch, in the documents and the report.
-/

namespace FrontMatter

open Block (LineMap extract?)
open Text (splitLines)

/-! ## Findings about fields -/

/-- A finding about a field is one about the mapping of the document. -/
theorem finding_of_mem_judge {context : Context} {registry : Registry} {s : Source}
    {d : Diagnostic} (hd : d ∈ (judge context registry s).1) {k : String} (hk : d.field = some k) :
    ∃ given, s.Gives context given ∧ d.file = s.path
      ∧ d.line = (given.lines.get? k).map (fun n => n + s.lineOffset)
      ∧ (d.kind = .missingField → k ∉ given.entries.keys) := by
  rcases mem_judge hd with hgeneral | ⟨given, ds, hgiven, hreports, e, he, rfl⟩
  · rw [hgeneral.2.1] at hk
    cases hk
  · obtain ⟨hfile, field, hfield, hline⟩ := hreports.placed e he
    obtain rfl : field = k := Option.some.inj (hfield.symm.trans hk)
    refine ⟨given, hgiven, hfile.trans hgiven.file, ?_, ?_⟩
    · show e.line.map _ = _
      rw [hline]
    · intro hkind
      cases (hreports.complete _ _).mp ⟨e, he, hkind, hfield⟩ with
      | missing hrequired habsent => exact habsent

/-! ## Lines of documents -/

/-- A document as a file holds it. -/
structure MarkdownFile where
  path : String
  kind : String
  content : String

/-- The document that a run is handed for a file. -/
def MarkdownFile.source (f : MarkdownFile) : Source :=
  .ofMarkdown f.path f.kind f.content

/-- The line of a text with a number, counted from one, which starts with a key and a colon. -/
def IsLineOfKey (content : String) (n : Int) (k : String) (line : List Char) : Prop :=
  ∃ i : Nat, n = i + 1 ∧ (splitLines content.toList)[i]? = some line
    ∧ ∃ rest, line = k.toList ++ ':' :: rest

/-- A key of the mapping of a file that has a line in the block has the next line in the file. -/
theorem keyLine_of_gives {context : Context} {f : MarkdownFile} {given : Subject}
    (h : f.source.Gives context given) {k : String} {n : Int}
    (hline : given.lines.get? k = some n) :
    k ∈ given.entries.keys ∧ ∃ line, IsLineOfKey f.content (n + 1) k line := by
  obtain ⟨text, doc, hblock, hread, hcontent, hlines⟩ := h.block
  have hextract : extract? f.content = some text := by
    cases hextract : extract? f.content with
    | none =>
      unfold MarkdownFile.source Source.ofMarkdown at hblock
      rw [hextract] at hblock
      cases hblock
    | some t =>
      unfold MarkdownFile.source Source.ofMarkdown at hblock
      rw [hextract] at hblock
      cases hblock
      rfl
  -- From the line map to the line of the block, and from there to the line of the file.
  rw [← hlines, (mapping_of_ofText hread hcontent).1] at hline
  obtain ⟨hkey, i, rest, rfl, hrest⟩ := Block.line_of_get?_ofText hline
  obtain ⟨after, hafter⟩ := Block.line_of_extract? hextract hrest
  refine ⟨(Table.holds_iff _ _).mp hkey, _, i + 1, by omega, hafter, rest ++ after, ?_⟩
  rw [List.append_assoc]
  rfl

/-! ## Lines in reports -/

/-- A report without colours that shows a line for a finding: the paragraph of the finding has an
excerpt whose one marked line has the number and the text of the line. -/
def ShowsLine (output : String) (contextLines : Int) (d : Diagnostic) (n : Int) (line : List Char) :
    Prop :=
  ∃ before snippet after width text,
    output = String.intercalate "\n" (before ++ titleLine ⟨false, contextLines⟩ d
      :: (detailLines ⟨false, contextLines⟩ d ++ "" :: snippet
        ++ adviceLines ⟨false, contextLines⟩ d) ++ after)
    ∧ snippet.filter isMarked = ["      " ++ padLeft width (toString n) ++ " > " ++ text]
    ∧ IsShownAs line text

/-- A report shows the line of a key for a finding at that line. -/
theorem report_showsLine {contextLines : Int} (hcontext : 0 ≤ contextLines)
    {texts : Entries String} {ds : List Diagnostic} {d : Diagnostic} (hd : d ∈ ds) {n : Int}
    (hn : d.line = some n) {content : String} (hcontent : texts.get? d.file = some content)
    {k : String} {line : List Char} (hline : IsLineOfKey content n k line) :
    ShowsLine (report ⟨false, contextLines⟩ (SourceLines.ofTexts texts) ds) contextLines d n
      line := by
  obtain ⟨i, rfl, hi, rest, rfl⟩ := hline
  obtain ⟨width, hmarked⟩ := filter_isMarked_excerpt hcontext
    (getElem?_sourceLines hi (by simp))
  have hshown : excerpt ⟨false, contextLines⟩ (i + 1) (sourceLines content) ≠ [] := by
    intro hnone
    rw [hnone] at hmarked
    cases hmarked
  obtain ⟨before, after, hreport⟩ :=
    exists_report_excerpt ⟨false, contextLines⟩ hd hn hcontent hshown
  exact ⟨before, _, after, width, _, hreport, hmarked, shownLine_isShownAs _⟩

/-! ## Batches -/

/-- In a batch of files with distinct paths, every finding about a field that has a line points at
the line of the key in its file, and the report of the run shows this line as the one that is
marked. A finding that a key is missing has no line. -/
theorem runBatch_points_at_keys {files : List MarkdownFile}
    (hpaths : (files.map MarkdownFile.path).Nodup) (context : Context) (workers : Int)
    (state : RunState) :
    let run := runBatch context workers state (files.map MarkdownFile.source)
    ∃ found, run.1.collector = state.collector.extend found
      ∧ ∀ d ∈ found, ∀ k, d.field = some k →
        (d.kind = .missingField → d.line = none)
        ∧ ∀ n, d.line = some n → ∃ f ∈ files, d.file = f.path
          ∧ ∃ line, IsLineOfKey f.content n k line
            ∧ ∀ contextLines, 0 ≤ contextLines →
              ShowsLine (report ⟨false, contextLines⟩ (SourceLines.ofTexts run.2.contents)
                run.1.collector.diagnostics) contextLines d n line := by
  intro run
  obtain ⟨hstate, hcontents⟩ :=
    runBatch_eq context workers state (files.map MarkdownFile.source)
  refine ⟨_, by rw [hstate], ?_⟩
  intro d hd k hk
  have hperm := sortSources_perm (files.map MarkdownFile.source)
  obtain ⟨s, hs, registry, hjudged⟩ := exists_of_mem_judgeAll hd
  obtain ⟨f, hf, rfl⟩ := List.mem_map.mp (hperm.mem_iff.mp hs)
  obtain ⟨given, hgives, hfile, hline, hmissing⟩ := finding_of_mem_judge hjudged hk
  constructor
  · intro hkind
    cases hkey : given.lines.get? k with
    | none => rw [hline, hkey, Option.map_none]
    | some m =>
      -- A key with a line is a key of the mapping, so it is not missing.
      exact absurd (keyLine_of_gives hgives hkey).1 (hmissing hkind)
  · intro n hn
    obtain ⟨m, hm, rfl⟩ := Option.map_eq_some_iff.mp (hline.symm.trans hn)
    obtain ⟨-, line, hkeyLine⟩ := keyLine_of_gives hgives hm
    refine ⟨f, hf, hfile, line, hkeyLine, ?_⟩
    intro contextLines hcontext
    -- The report reads the content that the batch has kept for the path of the file.
    have hsorted : ((sortSources (files.map MarkdownFile.source)).map Source.path).Nodup := by
      rw [(hperm.map Source.path).nodup_iff, List.map_map]
      exact hpaths
    have hcontent : run.2.contents.get? d.file = some f.content := by
      rw [hcontents, hfile]
      exact get?_foldl_addContent [] hsorted hs rfl
    have hmem : d ∈ run.1.collector.diagnostics := by
      rw [hstate]
      exact List.mem_append_right _ hd
    exact report_showsLine hcontext hmem hn hcontent hkeyLine

/-- A file whose lines end in a carriage return and a line feed, with a bad id. -/
def sampleFile : MarkdownFile :=
  ⟨"docs/tenets/a.md", "tenet", "---\r\nid: An id\r\n---\r\n"⟩

/-- The finding about the id of the sample points at the second line of the file. -/
theorem runBatch_points_at_sample_id :
    let run := runBatch ⟨"1.0.0", []⟩ 1 {} [sampleFile.source]
    ∃ d ∈ run.1.collector.diagnostics, d.field = some "id" ∧ d.line = some 2
      ∧ ∃ line, IsLineOfKey sampleFile.content 2 "id" line
        ∧ ShowsLine (report ⟨false, 3⟩ (SourceLines.ofTexts run.2.contents)
          run.1.collector.diagnostics) 3 d 2 line := by
  obtain ⟨found, hfound, hpoints⟩ :=
    @runBatch_points_at_keys [sampleFile] (by decide) ⟨"1.0.0", []⟩ 1 {}
  intro run
  have hsame : run.1.collector.diagnostics = found := congrArg Collector.diagnostics hfound
  obtain ⟨d, hd, hfield, hline⟩ : ∃ d ∈ run.1.collector.diagnostics,
      d.field = some "id" ∧ d.line = some 2 := by
    decide +kernel
  obtain ⟨-, hkey⟩ := hpoints d (hsame ▸ hd) "id" hfield
  obtain ⟨f, hf, -, line, hstarts, hshows⟩ := hkey 2 hline
  obtain rfl := List.mem_singleton.mp hf
  exact ⟨d, hd, hfield, hline, line, hstarts, hshows 3 (by decide)⟩

end FrontMatter
