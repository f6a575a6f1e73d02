import FrontMatter.Proofs.Excerpts
import FrontMatter.Proofs.Tables
import FrontMatter.Proofs.TextLines
import FrontMatter.Text.Ansi

/-!
# `FrontMatter.Proofs.ReportTexts` — where control characters in reports come from

The texts of a report that do not come from findings or files hold neither line feeds nor escape
characters. Neither do its numbers, and a line of a file is shown with its own characters.

## Contents

* `titleLine_plain`: a title line without colours.
* `IsControl`: line feeds and escape characters.
* `not_mem_toString`, `not_mem_int`, `not_mem_padLeft`: numbers.
* `not_mem_place`, `not_mem_heading`, `not_mem_word`: the parts of title lines and the heading.
* `not_mem_shownLine`, `exists_of_mem_get?`, `exists_of_mem_ofNames`: the lines of files.
-/

namespace FrontMatter

open Text (Style escapeMark splitLines trimEnd)

/-! ## Reports without colours -/

/-- A style changes nothing without colours. -/
@[simp] theorem apply_plain (contextLines : Int) (style : Style) (text : String) :
    (ReportStyle.mk false contextLines).apply style text = text :=
  rfl

/-- A title line without colours: the sign, the place and the message. -/
theorem titleLine_plain (contextLines : Int) (d : Diagnostic) :
    titleLine ⟨false, contextLines⟩ d
      = "[ERROR]" ++ (" " ++ (d.file ++ (d.line.map fun n => ":" ++ toString n).getD "") ++ " — "
        ++ d.message) := by
  unfold titleLine ReportStyle.paint
  simp only [apply_plain, Bool.false_eq_true, if_false, String.append_assoc]

/-! ## Control characters -/

/-- The control characters that shape a report on a terminal: the line feed and the escape
character. -/
def IsControl (c : Char) : Prop :=
  c = '\n' ∨ c = escapeMark

/-- Two texts without a character, one after the other. -/
theorem not_mem_append {c : Char} {s t : String} (hs : c ∉ s.toList) (ht : c ∉ t.toList) :
    c ∉ (s ++ t).toList := by
  rw [String.toList_append, List.mem_append]
  exact not_or.mpr ⟨hs, ht⟩

/-- A text that may be missing. -/
theorem not_mem_getD {c : Char} {o : Option String}
    (h : ∀ text, o = some text → c ∉ text.toList) : c ∉ (o.getD "").toList := by
  cases o with
  | none => exact List.not_mem_nil
  | some text => exact h text rfl

variable {c : Char} (hc : IsControl c)
include hc

/-! ## Numbers -/

/-- Digits and blanks are no control characters. -/
theorem IsControl.blank_or_digit_eq_false : (c == ' ' || c.isDigit) = false := by
  rcases hc with rfl | rfl <;> decide

/-- A written number holds no control character. -/
theorem not_mem_toString (n : Nat) : c ∉ (toString n).toList := by
  intro h
  have hneither := hc.blank_or_digit_eq_false
  rw [isDigit_of_mem_toString h, Bool.or_true] at hneither
  cases hneither

/-- A written number, which may be below zero, holds no control character. -/
theorem not_mem_int (n : Int) : c ∉ (toString n).toList := by
  cases n with
  | ofNat n => exact not_mem_toString hc n
  | negSucc n =>
    have hsign : c ∉ "-".toList := by rcases hc with rfl | rfl <;> decide
    exact not_mem_append hsign (not_mem_toString hc (n + 1))

/-- The number of a line holds no control character. -/
theorem not_mem_padLeft (width number : Nat) :
    c ∉ (padLeft width (toString number)).toList := by
  intro h
  have hneither := hc.blank_or_digit_eq_false
  rw [isDigit_or_blank_of_mem_padLeft h] at hneither
  cases hneither

/-! ## Parts of title lines and the heading -/

/-- The words of the kinds hold no control character. -/
theorem not_mem_word (kind : DiagnosticKind) : c ∉ kind.word.toList := by
  rcases hc with rfl | rfl <;> cases kind <;> decide

/-- The place of a finding holds no control character that its file does not hold. -/
theorem not_mem_place {d : Diagnostic} (h : c ∉ d.file.toList) :
    c ∉ (d.file ++ (d.line.map fun n => ":" ++ toString n).getD "").toList := by
  apply not_mem_append h
  apply not_mem_getD
  intro text htext
  obtain ⟨n, -, rfl⟩ := Option.map_eq_some_iff.mp htext
  have hcolon : c ∉ ":".toList := by rcases hc with rfl | rfl <;> decide
  exact not_mem_append hcolon (not_mem_int hc n)

/-- The heading holds no control character. -/
theorem not_mem_heading (ds : List Diagnostic) : c ∉ (heading ds).toList := by
  have hfixed : ∀ text ∈ ["Validation failed with ", "error", "errors", " in ", "file", "files",
      ":", " "], c ∉ text.toList := by
    rcases hc with rfl | rfl <;> decide
  have hcounted : ∀ (n : Nat) (one several : String), c ∉ one.toList → c ∉ several.toList →
      c ∉ (counted n one several).toList := by
    intro n one several hone hseveral
    apply not_mem_append (not_mem_append (not_mem_toString hc n) (hfixed " " (by simp)))
    split
    · exact hone
    · exact hseveral
  apply not_mem_append ?_ (hfixed ":" (by simp))
  apply not_mem_append ?_ (hcounted _ _ _ (hfixed "file" (by simp)) (hfixed "files" (by simp)))
  apply not_mem_append ?_ (hfixed " in " (by simp))
  exact not_mem_append (hfixed _ (by simp))
    (hcounted _ _ _ (hfixed "error" (by simp)) (hfixed "errors" (by simp)))

/-! ## Lines of files -/

/-- A line is shown with its own characters, and with points. -/
theorem not_mem_shownLine {line : List Char} (h : c ∉ line) : c ∉ (shownLine line).toList := by
  have htrim : c ∉ trimEnd (· == '\r') line := by
    obtain ⟨run, hline, -⟩ := trimEnd_spec (· == '\r') line
    intro hmem
    apply h
    rw [hline]
    exact List.mem_append_left _ hmem
  have hpoints : c ∉ ['.', '.', '.'] := by rcases hc with rfl | rfl <;> decide
  unfold shownLine
  dsimp only
  rw [String.toList_ofList]
  split
  · rw [List.mem_append]
    rintro (hmem | hmem)
    · exact htrim (List.mem_of_mem_take hmem)
    · exact hpoints hmem
  · exact htrim

omit hc

/-- The lines of a file that can be shown are lines of its text. -/
theorem mem_splitLines_of_mem_sourceLines {content : String} {line : List Char}
    (h : line ∈ sourceLines content) : line ∈ splitLines content.toList := by
  unfold sourceLines at h
  dsimp only at h
  split at h
  · exact List.dropLast_subset _ h
  · exact h

/-- The lines that are known of a file are those of an entry. -/
theorem exists_of_mem_get? {sources : SourceLines} {file : String} {line : List Char}
    (h : line ∈ (sources.get? file).getD []) : ∃ e ∈ sources, line ∈ e.2 := by
  unfold Table.get? at h
  cases hfile : sources.find? fun e => e.1 == file with
  | none =>
    rw [hfile] at h
    cases h
  | some e =>
    rw [hfile] at h
    exact ⟨e, List.mem_of_find?_eq_some hfile, h⟩

/-- The lines of the files of a report are lines of their contents. -/
theorem exists_of_mem_ofNames {files : List (FileName × Option String)}
    {e : String × List (List Char)} (he : e ∈ SourceLines.ofNames files) {line : List Char}
    (hline : line ∈ e.2) :
    ∃ f ∈ files, ∃ content, f.2 = some content ∧ line ∈ splitLines content.toList := by
  obtain ⟨f, hf, rfl⟩ := List.mem_map.mp (Table.mem_of_mem_ofList he)
  have hfile : f ∈ files := Table.mem_of_mem_ofList hf
  cases hcontent : f.2 with
  | none =>
    rw [hcontent] at hline
    cases hline
  | some content =>
    have hsource : line ∈ sourceLines content := by simpa [hcontent] using hline
    exact ⟨f, hfile, content, hcontent, mem_splitLines_of_mem_sourceLines hsource⟩

end FrontMatter
