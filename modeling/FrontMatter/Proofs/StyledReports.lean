import FrontMatter.Proofs.EscapeSequences
import FrontMatter.Proofs.ReportTexts
import Mathlib.Data.List.Forall2

/-!
# `FrontMatter.Proofs.StyledReports` — colours change nothing but the style

What the report with colours shows is the report without colours, but for the sign at the start of
each title line and the mark in each excerpt. Both reports put the same lines together, and every
line with colours shows the line without them: the parts of a line that depend on the style are a
sign, a mark, and escape sequences around texts.

## Contents

* `Diagnostic.EscapeFree`, `SourceLines.EscapeFree`: findings and files without escape characters.
* `withCross`, `withArrow`: lines with the signs of reports with colours.
* `dressed_titleLine`, `dressed_excerptLine`, `dressed_paragraph`: the parts of a report.
* `recoloured`, `dressed_report`: what the report with colours shows.
* `sameCount_recoloured`: the signs bring neither line feeds nor escape characters.
* `unstyled_report`: the report with colours and the report without them.
-/

namespace FrontMatter

open Text (Style escapeMark splitLines styled unstyled)

/-! ## Texts without escape characters -/

/-- A finding whose texts hold no escape character. -/
structure Diagnostic.EscapeFree (d : Diagnostic) : Prop where
  file : escapeMark ∉ d.file.toList
  message : escapeMark ∉ d.message.toList
  field : ∀ text, d.field = some text → escapeMark ∉ text.toList
  suggestion : ∀ text, d.suggestion = some text → escapeMark ∉ text.toList

/-- Files whose lines hold no escape character. -/
def SourceLines.EscapeFree (sources : SourceLines) : Prop :=
  ∀ e ∈ sources, ∀ line ∈ e.2, escapeMark ∉ line

/-- The files of a report hold no escape character if their contents hold none. -/
theorem escapeFree_ofNames {files : List (FileName × Option String)}
    (h : ∀ e ∈ files, ∀ content, e.2 = some content → escapeMark ∉ content.toList) :
    (SourceLines.ofNames files).EscapeFree := by
  intro e he line hline hmem
  obtain ⟨f, hf, content, hcontent, hlines⟩ := exists_of_mem_ofNames he hline
  exact h f hf content hcontent (mem_of_mem_splitLines hlines hmem).1

/-- The escape character is a control character. -/
theorem isControl_escapeMark : IsControl escapeMark :=
  .inr rfl

/-! ## Signs -/

/-- A title line with the sign of reports with colours. -/
def withCross (line : String) : String :=
  if "[ERROR]".toList.isPrefixOf line.toList then String.ofList ('✗' :: line.toList.drop 7)
  else line

/-- The characters that stand before the mark of an excerpt. -/
def isMargin (c : Char) : Bool :=
  c == ' ' || c.isDigit

/-- A line of an excerpt with the mark of reports with colours, behind the margin and the number. -/
def withArrow (line : String) : String :=
  match line.toList.dropWhile isMargin with
  | '>' :: rest => String.ofList (line.toList.takeWhile isMargin ++ '→' :: rest)
  | _ => line

/-- The sign stands where the word stood. -/
theorem withCross_append (rest : String) : withCross ("[ERROR]" ++ rest) = "✗" ++ rest := by
  have hprefix : "[ERROR]".toList.isPrefixOf ("[ERROR]" ++ rest).toList = true := by
    rw [List.isPrefixOf_iff_prefix, String.toList_append]
    exact List.prefix_append _ _
  have hrest : ("[ERROR]" ++ rest).toList.drop 7 = rest.toList := by
    rw [String.toList_append]
    exact List.drop_left' (by decide)
  unfold withCross
  rw [if_pos hprefix, hrest, ← String.toList_inj, String.toList_ofList, String.toList_append]
  rfl

/-- A margin ends at the first character that is neither a blank nor a digit. -/
theorem withArrow_append {margin rest : List Char} {c : Char}
    (hmargin : ∀ x ∈ margin, isMargin x = true) (hc : isMargin c = false) :
    withArrow (String.ofList (margin ++ c :: rest))
      = String.ofList (margin ++ (if c = '>' then '→' else c) :: rest) := by
  have hstop : ¬ isMargin c = true := by
    rw [hc]
    exact Bool.false_ne_true
  unfold withArrow
  rw [String.toList_ofList, List.dropWhile_append_of_pos hmargin, List.dropWhile_cons_of_neg hstop,
    List.takeWhile_append_of_pos hmargin, List.takeWhile_cons_of_neg hstop, List.append_nil]
  by_cases hmark : c = '>'
  · subst hmark
    rfl
  · rw [if_neg hmark]
    split
    · next heq => exact absurd (List.cons.inj heq).1 hmark
    · rfl

/-- The mark of a line of an excerpt is replaced, and a bar is left. -/
theorem withArrow_excerptLine (contextLines : Int) (width number : Nat) (marked : Bool)
    (line : List Char) :
    withArrow (excerptLine ⟨false, contextLines⟩ width number marked line)
      = "      " ++ padLeft width (toString number) ++ (if marked then " → " else " │ ")
        ++ shownLine line := by
  let margin := "      ".toList ++ (padLeft width (toString number)).toList ++ [' ']
  have hblanks : ∀ c ∈ "      ".toList, isMargin c = true := List.all_eq_true.mp (by decide)
  have hmargin : ∀ c ∈ margin, isMargin c = true := by
    intro c hc
    rcases List.mem_append.mp hc with hc | hc
    · rcases List.mem_append.mp hc with hc | hc
      · exact hblanks c hc
      · exact isDigit_or_blank_of_mem_padLeft hc
    · rw [List.mem_singleton.mp hc]
      decide
  have hwritten : ∀ c : Char, String.ofList (margin ++ c :: ' ' :: (shownLine line).toList)
      = "      " ++ padLeft width (toString number) ++ String.ofList [' ', c, ' ']
        ++ shownLine line := by
    intro c
    rw [← String.toList_inj]
    simp [margin]
  rw [excerptLine_plain]
  cases marked with
  | true =>
    have hmark : " > " = String.ofList [' ', '>', ' '] := by decide
    have harrow : " → " = String.ofList [' ', '→', ' '] := by decide
    rw [if_pos rfl, if_pos rfl, hmark, harrow, ← hwritten, ← hwritten]
    exact withArrow_append hmargin (by decide)
  | false =>
    have hbar : " │ " = String.ofList [' ', '│', ' '] := by decide
    rw [if_neg (by decide), if_neg (by decide), hbar, ← hwritten]
    exact withArrow_append hmargin (by decide)

/-! ## The parts of a report -/

/-- A text in a style shows the text, with colours or without. -/
theorem dressed_apply (l : ReportStyle) (style : Style) {text : String}
    (h : escapeMark ∉ text.toList) : Dressed (l.apply style text) text := by
  unfold ReportStyle.apply
  split
  · exact dressed_styled style h
  · exact Dressed.ofPlain h

/-- A title line shows the title line without colours, but for the sign. -/
theorem dressed_titleLine (contextLines : Int) {d : Diagnostic} (h : d.EscapeFree) :
    Dressed (titleLine ⟨true, contextLines⟩ d)
      (withCross (titleLine ⟨false, contextLines⟩ d)) := by
  rw [titleLine_plain, withCross_append]
  have hcross : escapeMark ∉ "✗".toList := by decide
  have hsign := dressed_apply ⟨true, contextLines⟩ ⟨some .red, false⟩ hcross
  have hblank : Dressed " " " " := Dressed.ofPlain (by decide)
  have hdash : Dressed " — " " — " := Dressed.ofPlain (by decide)
  have hplace := dressed_apply ⟨true, contextLines⟩ ⟨none, true⟩
    (not_mem_place isControl_escapeMark h.file)
  have hline := (((hsign.append hblank).append hplace).append hdash).append
    (Dressed.ofPlain h.message)
  simp only [String.append_assoc] at hline ⊢
  unfold titleLine ReportStyle.paint
  simp only [if_true, String.append_assoc]
  exact hline

/-- The lines that name field and kind show those without colours. -/
theorem dressed_detailLines (contextLines : Int) {d : Diagnostic} (h : d.EscapeFree) :
    List.Forall₂ Dressed (detailLines ⟨true, contextLines⟩ d)
      (detailLines ⟨false, contextLines⟩ d) := by
  have hname : escapeMark ∉ ("    field '" ++ d.field.getD "" ++ "'").toList :=
    not_mem_append (not_mem_append (by decide) (not_mem_getD h.field)) (by decide)
  have hkind : escapeMark ∉ ("    type: " ++ d.kind.word).toList :=
    not_mem_append (by decide) (not_mem_word isControl_escapeMark d.kind)
  have hkindLine := List.Forall₂.cons (dressed_apply ⟨true, contextLines⟩ ⟨some .brightBlack, false⟩
    hkind) .nil
  unfold detailLines ReportStyle.paint
  dsimp only
  by_cases hfield : (d.field.getD "" == "") = true
  · rw [if_pos hfield, if_pos hfield]
    exact hkindLine
  · rw [if_neg hfield, if_neg hfield]
    exact .cons (dressed_apply _ _ hname) hkindLine

/-- The lines of advice show those without colours. -/
theorem dressed_adviceLines (contextLines : Int) {d : Diagnostic} (h : d.EscapeFree) :
    List.Forall₂ Dressed (adviceLines ⟨true, contextLines⟩ d)
      (adviceLines ⟨false, contextLines⟩ d) := by
  unfold adviceLines ReportStyle.paint
  dsimp only
  by_cases hadvice : (d.suggestion.getD "" == "") = true
  · rw [if_pos hadvice, if_pos hadvice]
    exact .nil
  · rw [if_neg hadvice, if_neg hadvice]
    refine .cons (dressed_apply _ _ (by decide)) ?_
    rw [List.forall₂_map_left_iff, List.forall₂_map_right_iff, List.forall₂_same]
    intro line hline
    have hfree : escapeMark ∉ (String.ofList line).toList := by
      rw [String.toList_ofList]
      exact fun hmem => not_mem_getD h.suggestion (mem_of_mem_splitLines hline hmem).1
    exact dressed_apply _ _ (not_mem_append (by decide) hfree)

/-- A line of an excerpt shows the one without colours, but for the mark. -/
theorem dressed_excerptLine (contextLines : Int) (width number : Nat) (marked : Bool)
    {line : List Char} (h : escapeMark ∉ line) :
    Dressed (excerptLine ⟨true, contextLines⟩ width number marked line)
      (withArrow (excerptLine ⟨false, contextLines⟩ width number marked line)) := by
  rw [withArrow_excerptLine]
  have hmargin : Dressed "      " "      " := Dressed.ofPlain (by decide)
  have hblank : Dressed " " " " := Dressed.ofPlain (by decide)
  have hbar : Dressed " │ " " │ " := Dressed.ofPlain (by decide)
  have hpart : ∀ (colour : Text.Colour) {text : String}, escapeMark ∉ text.toList →
      Dressed ((ReportStyle.mk true contextLines).paint colour text) text :=
    fun colour _ htext => dressed_apply _ ⟨some colour, false⟩ htext
  have hnumber := not_mem_padLeft isControl_escapeMark width number
  have htext := not_mem_shownLine isControl_escapeMark h
  unfold excerptLine
  dsimp only
  cases marked with
  | true =>
    have harrow : " → " = " " ++ "→" ++ " " := by decide
    have hmark : escapeMark ∉ "→".toList := by decide
    have hline := (((((hmargin.append (hpart .red hnumber)).append hblank).append
      (hpart .red hmark)).append hblank).append (hpart .red htext))
    rw [if_pos rfl, if_pos rfl, if_pos rfl, harrow]
    simp only [String.append_assoc] at hline ⊢
    exact hline
  | false =>
    rw [if_neg (by decide), if_neg (by decide)]
    exact ((hmargin.append (hpart .brightBlack hnumber)).append hbar).append
      (hpart .brightBlack htext)

/-- An excerpt shows the one without colours, but for the mark. -/
theorem dressed_excerpt (contextLines line : Int) {source : List (List Char)}
    (h : ∀ cs ∈ source, escapeMark ∉ cs) :
    List.Forall₂ Dressed (excerpt ⟨true, contextLines⟩ line source)
      ((excerpt ⟨false, contextLines⟩ line source).map withArrow) := by
  unfold excerpt
  dsimp only
  split
  · exact .nil
  · have hheading : withArrow "    context:" = "    context:" := by decide
    rw [List.map_cons]
    refine .cons ?_ ?_
    · show Dressed _ (withArrow "    context:")
      rw [hheading]
      exact dressed_apply _ _ (by decide)
    · rw [List.map_map, List.forall₂_map_left_iff, List.forall₂_map_right_iff, List.forall₂_same]
      intro e he
      -- What the window shows are lines of the file.
      have hwindow := (List.mem_zipIdx he).2.2
      apply dressed_excerptLine
      apply h
      rw [hwindow]
      exact List.mem_of_mem_drop (List.mem_of_mem_take (List.getElem_mem _))

/-- The lines around a finding show those without colours, but for the mark. -/
theorem dressed_excerptLines (contextLines : Int) (d : Diagnostic) {source : List (List Char)}
    (h : ∀ cs ∈ source, escapeMark ∉ cs) :
    List.Forall₂ Dressed (excerptLines ⟨true, contextLines⟩ d source)
      ((excerptLines ⟨false, contextLines⟩ d source).map withArrow) := by
  unfold excerptLines
  cases d.line with
  | none => exact .nil
  | some n =>
    have hlines := dressed_excerpt contextLines n h
    dsimp only
    cases hshown : excerpt ⟨false, contextLines⟩ n source with
    | nil =>
      rw [hshown] at hlines
      rw [List.forall₂_nil_right_iff.mp hlines]
      exact .nil
    | cons first later =>
      rw [hshown] at hlines
      obtain ⟨first', later', hfirst, hlater, heq⟩ := List.forall₂_cons_right_iff.mp hlines
      have hempty : withArrow "" = "" := by decide
      rw [heq, List.map_cons, hempty]
      exact .cons (Dressed.ofPlain (by decide)) (.cons hfirst hlater)

/-! ## What reports with colours show -/

/-- The paragraph of a finding as the report with colours shows it: the lines of the paragraph
without colours, with the other sign and the other mark. -/
def recolouredParagraph (contextLines : Int) (sources : SourceLines) (d : Diagnostic) :
    List String :=
  withCross (titleLine ⟨false, contextLines⟩ d) :: (detailLines ⟨false, contextLines⟩ d
    ++ (excerptLines ⟨false, contextLines⟩ d ((sources.get? d.file).getD [])).map withArrow
    ++ adviceLines ⟨false, contextLines⟩ d)

/-- The lines of a report as the report with colours shows them. -/
def recolouredLines (contextLines : Int) (sources : SourceLines) (ds : List Diagnostic) :
    List String :=
  [heading ds] ++ ds.flatMap fun d => "" :: recolouredParagraph contextLines sources d

/-- The report without colours, with the sign and the mark of reports with colours. -/
def recoloured (contextLines : Int) (sources : SourceLines) (ds : List Diagnostic) : String :=
  if ds.isEmpty then "" else String.intercalate "\n" (recolouredLines contextLines sources ds)

/-- Lines that are related finding by finding. -/
theorem forall₂_flatMap {R : String → String → Prop} {f g : Diagnostic → List String}
    {ds : List Diagnostic} (h : ∀ d ∈ ds, List.Forall₂ R (f d) (g d)) :
    List.Forall₂ R (ds.flatMap f) (ds.flatMap g) := by
  induction ds with
  | nil => exact .nil
  | cons d ds ih =>
    rw [List.flatMap_cons, List.flatMap_cons]
    exact List.rel_append (h d List.mem_cons_self) (ih fun e he => h e (List.mem_cons_of_mem _ he))

/-- A paragraph shows the one without colours, but for the sign and the mark. -/
theorem dressed_paragraph (contextLines : Int) {sources : SourceLines}
    (hsources : sources.EscapeFree) {d : Diagnostic} (h : d.EscapeFree) :
    List.Forall₂ Dressed (paragraph ⟨true, contextLines⟩ sources d)
      (recolouredParagraph contextLines sources d) := by
  have hsource : ∀ cs ∈ (sources.get? d.file).getD [], escapeMark ∉ cs := by
    intro cs hcs
    obtain ⟨e, he, hmem⟩ := exists_of_mem_get? hcs
    exact hsources e he cs hmem
  exact .cons (dressed_titleLine contextLines h) (List.rel_append
    (List.rel_append (dressed_detailLines contextLines h)
      (dressed_excerptLines contextLines d hsource))
    (dressed_adviceLines contextLines h))

/-- The report with colours shows the report without them, but for the signs. -/
theorem dressed_report (contextLines : Int) {sources : SourceLines} (hsources : sources.EscapeFree)
    {ds : List Diagnostic} (h : ∀ d ∈ ds, d.EscapeFree) :
    Dressed (report ⟨true, contextLines⟩ sources ds) (recoloured contextLines sources ds) := by
  unfold report recoloured
  split
  · exact Dresses.nil
  · apply Dressed.intercalate
    have hheading := dressed_apply ⟨true, contextLines⟩ ⟨some .red, true⟩
      (not_mem_heading isControl_escapeMark ds)
    have hparagraphs := forall₂_flatMap fun d hd => List.Forall₂.cons
      (Dressed.ofPlain (t := "") (by decide)) (dressed_paragraph contextLines hsources (h d hd))
    exact List.rel_append (.cons hheading .nil) hparagraphs

/-! ## What the signs leave as it is -/

/-- Texts in which a character stands equally often. -/
def SameCount (c : Char) (s t : String) : Prop :=
  s.toList.count c = t.toList.count c

/-- Lines in which a character stands equally often make such texts. -/
theorem sameCount_intercalate {c : Char} {ls ms : List String}
    (h : List.Forall₂ (SameCount c) ls ms) :
    SameCount c (String.intercalate "\n" ls) (String.intercalate "\n" ms) := by
  induction h with
  | nil => rfl
  | @cons s t ls ms hst hrest ih =>
    cases hrest with
    | nil => simpa using hst
    | cons hfirst hlater =>
      rw [String.intercalate_cons_cons, String.intercalate_cons_cons]
      unfold SameCount at hst ih ⊢
      simp only [String.toList_append, List.count_append]
      rw [hst, ih]

variable {c : Char}

/-- The sign is neither a line feed nor an escape character, and neither is what it stands for. -/
theorem sameCount_withCross (hc : IsControl c) (line : String) :
    SameCount c line (withCross line) := by
  unfold SameCount withCross
  split
  · next hprefix =>
    obtain ⟨rest, hline⟩ := List.isPrefixOf_iff_prefix.mp hprefix
    have hdrop : line.toList.drop 7 = rest := by
      rw [← hline]
      exact List.drop_left' (by decide)
    have hcross : ('✗' :: rest).count c = rest.count c := by
      apply List.count_cons_of_ne
      rcases hc with rfl | rfl <;> decide
    have hword : "[ERROR]".toList.count c = 0 := by
      rcases hc with rfl | rfl <;> decide
    rw [String.toList_ofList, hdrop, hcross, ← hline, List.count_append, hword, Nat.zero_add]
  · rfl

/-- The mark is neither a line feed nor an escape character, and neither is what it stands for. -/
theorem sameCount_withArrow (hc : IsControl c) (line : String) :
    SameCount c line (withArrow line) := by
  unfold SameCount withArrow
  split
  · next rest hrest =>
    have hmark : ('>' :: rest).count c = rest.count c := by
      apply List.count_cons_of_ne
      rcases hc with rfl | rfl <;> decide
    have harrow : ('→' :: rest).count c = rest.count c := by
      apply List.count_cons_of_ne
      rcases hc with rfl | rfl <;> decide
    rw [String.toList_ofList, List.count_append, harrow, ← hmark, ← hrest, ← List.count_append,
      List.takeWhile_append_dropWhile]
  · rfl

/-- The report with the other signs has as many line feeds and escape characters. -/
theorem sameCount_recoloured (hc : IsControl c) (contextLines : Int)
    (sources : SourceLines) (ds : List Diagnostic) :
    SameCount c (report ⟨false, contextLines⟩ sources ds) (recoloured contextLines sources ds) := by
  have hsame : ∀ ls : List String, List.Forall₂ (SameCount c) ls ls :=
    fun ls => List.forall₂_same.mpr fun s _ => Eq.refl (s.toList.count c)
  unfold report recoloured
  split
  · rfl
  · apply sameCount_intercalate
    refine List.rel_append (hsame [heading ds]) (forall₂_flatMap fun d _ => ?_)
    refine List.Forall₂.cons rfl (.cons (sameCount_withCross hc _) ?_)
    refine List.rel_append (List.rel_append (hsame _) ?_) (hsame _)
    rw [List.forall₂_map_right_iff, List.forall₂_same]
    exact fun line _ => sameCount_withArrow hc line

/-! ## The report -/

/-- Colours change nothing but the style: where no text holds an escape character, the report with
colours is, without its escape sequences, the report without colours with the other sign and the
other mark. The two have the same number of lines, with the sequences and without them, and the
report without colours holds no escape character. -/
theorem unstyled_report (contextLines : Int) {files : List (FileName × Option String)}
    (hfiles : ∀ e ∈ files, ∀ content, e.2 = some content → escapeMark ∉ content.toList)
    {ds : List Diagnostic} (hds : ∀ d ∈ ds, d.EscapeFree) :
    let sources := SourceLines.ofNames files
    let coloured := report ⟨true, contextLines⟩ sources ds
    let plain := report ⟨false, contextLines⟩ sources ds
    unstyled coloured = recoloured contextLines sources ds
      ∧ (splitLines (unstyled coloured).toList).length = (splitLines plain.toList).length
      ∧ (splitLines coloured.toList).length = (splitLines plain.toList).length
      ∧ escapeMark ∉ plain.toList := by
  intro sources coloured plain
  have hdressed : Dressed coloured (recoloured contextLines sources ds) :=
    dressed_report contextLines (escapeFree_ofNames hfiles) hds
  have hfeeds : SameCount '\n' plain (recoloured contextLines sources ds) :=
    sameCount_recoloured (.inl rfl) contextLines sources ds
  have hescapes : SameCount escapeMark plain (recoloured contextLines sources ds) :=
    sameCount_recoloured (.inr rfl) contextLines sources ds
  refine ⟨hdressed.unstyled_eq, ?_, ?_, ?_⟩
  · rw [hdressed.unstyled_eq, length_splitLines, length_splitLines, hfeeds]
  · rw [length_splitLines, length_splitLines, hdressed.count_feed, hfeeds]
  · rw [← List.count_eq_zero, hescapes, List.count_eq_zero]
    exact hdressed.not_mem

/-- What the report with colours shows of a bad id on the second of three lines. -/
theorem unstyled_report_badId :
    let files := [(FileName.make true "docs/a.md", some "---\nid: X\n---\n")]
    let ds := [{ file := "docs/a.md", kind := .invalidFormat, message := "Invalid id 'X'",
                 line := some 2, field := some "id", suggestion := some "Use lower case" }]
    unstyled (report ⟨true, 1⟩ (SourceLines.ofNames files) ds)
        = "Validation failed with 1 error in 1 file:\n\n✗ docs/a.md:2 — Invalid id 'X'\n"
          ++ "    field 'id'\n    type: invalid_format\n\n    context:\n"
          ++ "        1 │ ---\n        2 → id: X\n        3 │ ---\n"
          ++ "    suggestion:\n      Use lower case"
      ∧ escapeMark ∉ (report ⟨false, 1⟩ (SourceLines.ofNames files) ds).toList := by
  intro files ds
  have hfiles : ∀ e ∈ files, ∀ content, e.2 = some content → escapeMark ∉ content.toList := by
    intro e he content hcontent
    rw [List.mem_singleton.mp he] at hcontent
    cases hcontent
    decide
  have hds : ∀ d ∈ ds, d.EscapeFree := by
    intro d hd
    rw [List.mem_singleton.mp hd]
    refine ⟨by decide, by decide, ?_, ?_⟩
    · intro text htext
      cases htext
      decide
    · intro text htext
      cases htext
      decide
  obtain ⟨hunstyled, -, -, hfree⟩ := unstyled_report 1 hfiles hds
  refine ⟨?_, hfree⟩
  rw [hunstyled]
  decide +kernel

end FrontMatter
