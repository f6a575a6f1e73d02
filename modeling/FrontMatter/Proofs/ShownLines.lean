import FrontMatter.Proofs.DocumentShape
import FrontMatter.Proofs.ErrorPlaces
import FrontMatter.Proofs.ShownValues

/-!
# `FrontMatter.Proofs.ShownLines` — the lines of findings in files can be written

A block with more than a million characters is turned down as a whole, without a line. So every
finding that a run makes in a file is at one of the first lines of the file, if it is at a line at
all, and a report of what has been found is not refused.

## Contents

* `isOk_reportText_iff`, `eq_report_of_reportText`: the reports that are not refused.
* `line_le_of_ahead`: a cursor passes no more lines than there are characters.
* `length_le_of_valueOfText`, `length_le_of_mark?`: blocks are short, unless they are turned down.
* `Document.TellsLine`, `TellsLine.le`: the lines that a document tells.
* `tellsLine_of_mem_checkSource`, `line_of_mem_judge`: the lines of findings.
* `hasShortLine_of_runBatch`: all findings of a run.
-/

namespace FrontMatter

open Text (splitLines)

/-! ## Reports that are not refused -/

/-- A finding can be shown if its line is short. -/
theorem canBeShown_iff (d : Diagnostic) : d.canBeShown = true ↔ d.HasShortLine := by
  unfold Diagnostic.canBeShown Diagnostic.HasShortLine
  cases d.line with
  | none => simp [AreShort]
  | some n =>
    rw [Option.all_some, isOk_eq_true_iff, isOk_intText_iff]
    rfl

/-- A report is not refused if the lines of all findings are short. -/
theorem isOk_reportText_iff (l : ReportStyle) (sources : SourceLines) (ds : List Diagnostic) :
    IsOk (reportText l sources ds) ↔ ∀ d ∈ ds, d.HasShortLine := by
  have hall : ds.all Diagnostic.canBeShown = true ↔ ∀ d ∈ ds, d.HasShortLine := by
    simp only [List.all_eq_true, canBeShown_iff]
  rw [← hall]
  unfold reportText
  split
  · next h => exact iff_of_true (isOk_ok _) h
  · next h => exact iff_of_false (by rintro ⟨t, ⟨⟩⟩) h

/-- What is not refused is the report. -/
theorem eq_report_of_reportText {l : ReportStyle} {sources : SourceLines} {ds : List Diagnostic}
    {text : String} (h : reportText l sources ds = .ok text) : text = report l sources ds := by
  unfold reportText at h
  split at h
  · exact (Except.ok.inj h).symm
  · cases h

/-! ## Lines of blocks -/

namespace Yaml

/-- A character starts one line at most. -/
theorem Mark.line_past_le (m : Mark) (c : Char) (rest : List Char) :
    (m.past c rest).line ≤ m.line + 1 := by
  unfold Mark.past
  split
  · exact Nat.le_refl _
  · split <;> exact Nat.le_succ _

open Cursor

/-- A cursor that is ahead has passed no more lines than characters. -/
theorem line_le_of_reaches {c d : Cursor} (h : Reaches c d) :
    d.mark.line + d.rest.length ≤ c.mark.line + c.rest.length := by
  induction h with
  | refl c => exact Nat.le_refl _
  | @step c d _ ih =>
    refine Nat.le_trans ih ?_
    unfold Cursor.advance
    split
    · exact Nat.le_refl _
    · next x rest hrest =>
      have hline := c.mark.line_past_le x rest
      simp only [hrest, List.length_cons]
      omega

/-- A place that a cursor before a text comes to is not beyond as many lines as there are
characters. -/
theorem line_le_of_ahead {text : String} {m : Mark} (h : (Cursor.ofText text).Ahead m) :
    m.line ≤ text.length := by
  obtain ⟨d, hreach, rfl⟩ := h
  have hle : d.mark.line + d.rest.length ≤ 0 + text.toList.length := line_le_of_reaches hreach
  rw [String.length_toList] at hle
  omega

end Yaml

/-- A text that is too long is turned down, without a place. -/
theorem valueOfText_of_long {text : String} (h : Yaml.maxLength < text.length) :
    valueOfText text = .error (.violation (.size text.length Yaml.maxLength) none) := by
  unfold valueOfText
  dsimp only
  rw [if_pos h]
  rfl

/-- A text with a value is not too long. -/
theorem length_le_of_valueOfText {text : String} {v : Value} (h : valueOfText text = .ok v) :
    text.length ≤ Yaml.maxLength := by
  by_contra hlong
  rw [valueOfText_of_long (Nat.lt_of_not_le hlong)] at h
  cases h

/-- Nor is a text with a fault at a place. -/
theorem length_le_of_mark? {text : String} {f : Yaml.Fault} (h : valueOfText text = .error f)
    {m : Yaml.Mark} (hm : f.mark? = some m) : text.length ≤ Yaml.maxLength := by
  by_contra hlong
  rw [valueOfText_of_long (Nat.lt_of_not_le hlong)] at h
  cases h
  cases hm

/-! ## Lines that documents tell -/

/-- A line that a document tells the rules: that of an error, that of a key, or the first one. -/
inductive Document.TellsLine (doc : Document) (n : Int) : Prop
  | error {e : ParseError} (he : e ∈ doc.errors) (hline : e.line = some n)
  | key {k : String} (hk : doc.lines.get? k = some n)
  | first (h : n = 1)

/-- A key with a line is in a block that is not too long, at one of its lines. -/
theorem line_of_get?_ofBlock {text k : String} {n : Int}
    (h : (Document.ofBlock (some text)).lines.get? k = some n) :
    1 ≤ n ∧ n ≤ Yaml.maxLength + 1 := by
  change (Document.ofReading (Reading.ofText text)).lines.get? k = some n at h
  unfold Reading.ofText at h
  split at h
  · cases h
  · split at h
    · cases h
    · next v hvalue =>
      dsimp only [Document.ofReading] at h
      unfold Content.lines at h
      split at h
      · have hline := Block.line_of_mem_ofText (Table.mem_of_get? h)
        have hlength := length_le_of_valueOfText hvalue
        have hfeeds := List.count_le_length (a := '\n') (l := text.toList)
        rw [length_splitLines] at hline
        rw [String.length_toList] at hfeeds
        omega
      · cases h

/-- The lines that the document of a block tells are among the first ones. -/
theorem Document.TellsLine.le {text : String} {n : Int}
    (h : (Document.ofBlock (some text)).TellsLine n) : 1 ≤ n ∧ n ≤ Yaml.maxLength + 1 := by
  cases h with
  | error he hline =>
    obtain ⟨f, hvalue, -, rfl⟩ := exists_fault_of_mem_errors he
    obtain ⟨m, hm, rfl⟩ := Option.map_eq_some_iff.mp hline
    have hplace := Yaml.line_le_of_ahead (isAt_of_valueOfText hvalue m hm)
    have hlength := length_le_of_mark? hvalue hm
    omega
  | key hk => exact line_of_get?_ofBlock hk
  | first h => omega

/-! ## Lines of findings -/

/-- A finding about a document of a known kind has a line that the document tells, or none. -/
theorem tellsLine_of_mem_checkKnown {context : Context} {kind : DocumentKind} {schema : Schema}
    {file : String} {doc : Document} {registry : Registry} {ds : List Diagnostic}
    (h : (checkKnown context kind schema file doc registry).1 = .ok ds)
    (hrequired : schema.required.Nodup)
    (hkeys : ∀ entries, doc.content = .mapping entries → entries.keys.Nodup)
    {d : Diagnostic} (hd : d ∈ ds) {n : Int} (hn : d.line = some n) : doc.TellsLine n := by
  unfold checkKnown at h
  split at h
  · cases h
    obtain ⟨e, he, rfl⟩ := List.mem_map.mp hd
    exact .error he hn
  · split at h
    · cases h
      rw [List.mem_singleton.mp hd] at hn
      cases hn
    · next entries hcontent =>
      have hreports := checkMapping_reports_of_ok h hrequired (hkeys entries hcontent)
      obtain ⟨-, field, -, hline⟩ := hreports.placed d hd
      exact .key (hline.symm.trans hn)
    · cases h
      rw [List.mem_singleton.mp hd] at hn
      exact .first (Option.some.inj hn).symm

/-- So has a finding about a document whose kind is given by name. -/
theorem tellsLine_of_mem_checkDocument {context : Context} {kindName file : String} {doc : Document}
    {registry : Registry} {ds : List Diagnostic}
    (h : (checkDocument SchemaTable.standard context kindName file doc registry).1 = .ok ds)
    (hkeys : ∀ entries, doc.content = .mapping entries → entries.keys.Nodup)
    {d : Diagnostic} (hd : d ∈ ds) {n : Int} (hn : d.line = some n) : doc.TellsLine n := by
  unfold checkDocument at h
  split at h
  · cases h
  · next kind schema hfind =>
    have hrequired := nodup_required_of_get?_standard (word_of_find hfind).2
    exact tellsLine_of_mem_checkKnown h hrequired hkeys hd hn

/-- A finding about a document that has been read has a line that the document tells, counted in the
content, or none. -/
theorem tellsLine_of_mem_checkSource {context : Context} {s : Source} {doc? : Option Document}
    {registry : Registry} {ds : List Diagnostic}
    (h : (checkSource context s doc? registry).1 = .ok ds)
    (hkeys : ∀ doc, doc? = some doc → ∀ entries, doc.content = .mapping entries →
      entries.keys.Nodup)
    {d : Diagnostic} (hd : d ∈ ds) {n : Int} (hn : d.line = some n) :
    ∃ doc, doc? = some doc ∧ doc.TellsLine (n - s.lineOffset) := by
  unfold checkSource at h
  cases doc? with
  | none =>
    cases h
    rw [List.mem_singleton.mp hd] at hn
    cases hn
  | some doc =>
    obtain ⟨es, hes, rfl⟩ := exists_of_map_eq_ok h
    obtain ⟨e, he, rfl⟩ := List.mem_map.mp hd
    obtain ⟨m, hm, rfl⟩ := Option.map_eq_some_iff.mp hn
    refine ⟨doc, rfl, ?_⟩
    rw [Int.add_sub_cancel]
    exact tellsLine_of_mem_checkDocument hes (hkeys doc rfl) he hm

/-- A finding with a line is one of a document that has been read and checked to its end. -/
theorem exists_check_of_mem_judge {context : Context} {registry : Registry} {s : Source}
    {d : Diagnostic} (hd : d ∈ (judge context registry s).1) {n : Int} (hn : d.line = some n) :
    ∃ reading ds, s.read = .ok reading ∧ d ∈ ds
      ∧ (checkSource context s (reading.map Document.ofReading) registry).1 = .ok ds := by
  have hfailure : ∀ what message, d ∉ [failureFinding s what message] := by
    intro what message hmem
    rw [List.mem_singleton.mp hmem] at hn
    cases hn
  unfold judge at hd
  split at hd
  · exact absurd hd (hfailure _ _)
  · next reading hread =>
    split at hd
    · next ds after hcheck => exact ⟨reading, ds, hread, hd, congrArg Prod.fst hcheck⟩
    · exact absurd hd (hfailure _ _)

/-- A finding about a document is at one of the first lines of its block, if it is at a line. -/
theorem line_of_mem_judge {context : Context} {registry : Registry} {s : Source} {d : Diagnostic}
    (hd : d ∈ (judge context registry s).1) {n : Int} (hn : d.line = some n) :
    1 ≤ n - s.lineOffset ∧ n - s.lineOffset ≤ Yaml.maxLength + 1 := by
  obtain ⟨reading, ds, hread, hmem, hcheck⟩ := exists_check_of_mem_judge hd hn
  -- Every document that is read is that of a text.
  have htext : ∀ doc, reading.map Document.ofReading = some doc →
      ∃ t, doc = Document.ofReading (Reading.ofText t) := by
    intro doc hdoc
    unfold Source.read at hread
    split at hread <;> cases hread
    · cases hdoc
    · next t _ => exact ⟨t, (Option.some.inj hdoc).symm⟩
  have hkeys : ∀ doc, reading.map Document.ofReading = some doc →
      ∀ entries, doc.content = .mapping entries → entries.keys.Nodup := by
    intro doc hdoc entries hcontent
    obtain ⟨t, rfl⟩ := htext doc hdoc
    exact ((isShaped_ofText t).content.mapping entries hcontent).nodup_keys
  obtain ⟨doc, hdoc, htells⟩ := tellsLine_of_mem_checkSource hcheck hkeys hmem hn
  obtain ⟨t, rfl⟩ := htext doc hdoc
  exact Document.TellsLine.le htells

/-! ## All findings of a run -/

/-- A finding in a file can be written: its line has seven digits at most. -/
theorem hasShortLine_of_mem_judge {context : Context} {registry : Registry} {s : Source}
    (hoffset : s.lineOffset = 1) {d : Diagnostic} (hd : d ∈ (judge context registry s).1) :
    d.HasShortLine := by
  intro n hn
  obtain ⟨hfirst, hlast⟩ := line_of_mem_judge hd (Option.mem_toList.mp hn)
  have hseven : n.natAbs < 10 ^ 7 := by
    unfold Yaml.maxLength at hlast
    omega
  have hten : ∀ k, Decimal.powerOfTen k = 10 ^ k := fun _ => rfl
  rw [hten]
  exact Nat.lt_of_lt_of_le hseven (Nat.pow_le_pow_right (by decide) (by decide))

/-- All findings of a run over files can be written, if those before it can be. -/
theorem hasShortLine_of_runBatch {sources : List Source}
    (hoffsets : ∀ s ∈ sources, s.lineOffset = 1) (context : Context) (workers : Int)
    {state : RunState} (hstate : ∀ d ∈ state.collector.diagnostics, d.HasShortLine) :
    ∀ d ∈ (runBatch context workers state sources).1.collector.diagnostics, d.HasShortLine := by
  intro d hd
  rw [(runBatch_eq context workers state sources).1] at hd
  rcases List.mem_append.mp hd with hbefore | hfound
  · exact hstate d hbefore
  · obtain ⟨s, hs, registry, hjudged⟩ := exists_of_mem_judgeAll hfound
    have hsource := hoffsets s ((sortSources_perm sources).mem_iff.mp hs)
    exact hasShortLine_of_mem_judge hsource hjudged

end FrontMatter
