import FrontMatter.Report.Text
import Mathlib.Data.List.Basic

/-!
# `FrontMatter.Proofs.Excerpts` — the marked line of an excerpt

Without colours, a line of an excerpt is a number, a mark or a bar, and the text of the line. The
excerpt around a line of a file has one marked line, which has the number and the text of the line.

## Contents

* `IsShownAs`, `shownLine_isShownAs`: how an excerpt shows the text of a line.
* `isDigit_or_blank_of_mem_padLeft`: the numbers of lines.
* `isMarked`, `isMarked_excerptLine`: the lines of an excerpt that bear the mark.
* `shownWindow`, `excerpt_eq`: the lines that an excerpt is made of.
* `filter_excerpt`, `filter_isMarked_excerpt`: the one marked line of an excerpt.
* `getElem?_sourceLines`: the lines of a file that can be shown.
* `exists_report_eq`, `exists_report_excerpt`: the paragraph of each finding stands in the report.
-/

namespace FrontMatter

open Text (splitLines trimEnd)

/-! ## The text of a line -/

/-- How an excerpt shows a line: all carriage returns at its end are left out, and what is longer
than 80 characters is cut to 77 and three points. -/
def IsShownAs (line : List Char) (text : String) : Prop :=
  ∃ cs returns, line = cs ++ List.replicate returns '\r' ∧ cs.getLast? ≠ some '\r'
    ∧ text = String.ofList (if 80 < cs.length then cs.take 77 ++ ['.', '.', '.'] else cs)

/-- What is dropped from the end of a text is a run of the class, and what stays has none at its
end. -/
theorem trimEnd_spec (p : Char → Bool) (cs : List Char) :
    ∃ run, cs = trimEnd p cs ++ run ∧ (∀ c ∈ run, p c = true)
      ∧ ∀ c, (trimEnd p cs).getLast? = some c → p c = false := by
  refine ⟨(cs.reverse.takeWhile p).reverse, ?_, ?_, ?_⟩
  · unfold trimEnd
    rw [← List.reverse_append, List.takeWhile_append_dropWhile, List.reverse_reverse]
  · intro c hc
    exact List.all_eq_true.mp List.all_takeWhile c (List.mem_reverse.mp hc)
  · intro c hc
    unfold trimEnd at hc
    rw [List.getLast?_reverse] at hc
    have hno := List.head?_dropWhile_not p cs.reverse
    rw [hc] at hno
    simpa using hno

/-- An excerpt shows lines in this way. -/
theorem shownLine_isShownAs (line : List Char) : IsShownAs line (shownLine line) := by
  obtain ⟨run, hline, hrun, hlast⟩ := trimEnd_spec (· == '\r') line
  refine ⟨trimEnd (· == '\r') line, run.length, ?_, ?_, rfl⟩
  · have hreturns : run = List.replicate run.length '\r' :=
      List.eq_replicate_iff.mpr ⟨rfl, fun c hc => beq_iff_eq.mp (hrun c hc)⟩
    rw [← hreturns]
    exact hline
  · intro h
    exact absurd (hlast _ h) (by decide)

/-! ## The mark -/

/-- A line of an excerpt that bears the mark: behind the margin and the number comes `>`. -/
def isMarked (line : String) : Bool :=
  ((line.toList.drop 6).dropWhile fun c => c == ' ' || c.isDigit).head? == some '>'

/-- A line of an excerpt without colours. -/
theorem excerptLine_plain (contextLines : Int) (width number : Nat) (marked : Bool)
    (line : List Char) :
    excerptLine ⟨false, contextLines⟩ width number marked line
      = "      " ++ padLeft width (toString number) ++ (if marked then " > " else " │ ")
        ++ shownLine line := by
  have hmark : " > " = " " ++ ">" ++ " " := by decide
  unfold excerptLine ReportStyle.paint ReportStyle.apply
  cases marked with
  | true =>
    simp only [Bool.false_eq_true, if_false, if_true]
    rw [hmark]
    simp only [String.append_assoc]
  | false => simp only [Bool.false_eq_true, if_false]

/-- A written number is made of digits. -/
theorem isDigit_of_mem_toString {n : Nat} {c : Char} (h : c ∈ (toString n).toList) :
    c.isDigit = true := by
  rw [Nat.toString_eq_repr, Nat.toList_repr] at h
  exact Nat.isDigit_of_mem_toDigits (Nat.succ_pos 9) (Nat.le_refl 10) h

/-- The number of a line is written with blanks and digits. -/
theorem isDigit_or_blank_of_mem_padLeft {width number : Nat} {c : Char}
    (h : c ∈ (padLeft width (toString number)).toList) : (c == ' ' || c.isDigit) = true := by
  unfold padLeft at h
  rw [String.toList_append, String.toList_ofList] at h
  rcases List.mem_append.mp h with h | h
  · rw [List.eq_of_mem_replicate h]
    decide
  · rw [isDigit_of_mem_toString h, Bool.or_true]

/-- A line of an excerpt bears the mark exactly when it is shown as the marked one. -/
theorem isMarked_excerptLine (contextLines : Int) (width number : Nat) (marked : Bool)
    (line : List Char) :
    isMarked (excerptLine ⟨false, contextLines⟩ width number marked line) = marked := by
  -- Behind the margin stand blanks and digits only, up to the mark or the bar.
  have hmargin : "      ".toList = List.replicate 6 ' ' := by decide
  have hnumber : ∀ c ∈ (padLeft width (toString number)).toList,
      (c == ' ' || c.isDigit) = true := fun c hc => isDigit_or_blank_of_mem_padLeft hc
  unfold isMarked
  rw [excerptLine_plain]
  simp only [String.toList_append, List.append_assoc]
  rw [hmargin, List.drop_left' List.length_replicate, List.dropWhile_append_of_pos hnumber]
  cases marked with
  | true =>
    have hmark : " > ".toList = [' ', '>', ' '] := by decide
    rw [if_pos rfl, hmark]
    simp
  | false =>
    have hbar : " │ ".toList = [' ', '│', ' '] := by decide
    rw [if_neg (by decide), hbar]
    simp

/-! ## The lines around a line -/

/-- Among numbered things only one has a given number. -/
theorem filter_zipIdx_eq {α : Type} (l : List α) (first number : Nat) :
    (l.zipIdx first).filter (fun e => e.2 == number)
      = if first ≤ number then (l[number - first]?.toList).map fun x => (x, number) else [] := by
  induction l generalizing first with
  | nil => simp
  | cons x l ih =>
    rw [List.zipIdx_cons, List.filter_cons, ih]
    rcases Nat.lt_trichotomy first number with hlt | rfl | hgt
    · -- The number belongs to a later thing.
      obtain ⟨k, rfl⟩ := Nat.exists_eq_add_of_lt hlt
      have hindex : first + k + 1 - (first + 1) = k := by omega
      have hsucc : first + k + 1 - first = k + 1 := by omega
      rw [if_neg (by simp; omega), if_pos (by omega), if_pos (by omega), hindex, hsucc,
        List.getElem?_cons_succ]
    · rw [if_pos (by simp), if_neg (by omega), if_pos (Nat.le_refl first), Nat.sub_self]
      rfl
    · rw [if_neg (by simp; omega), if_neg (by omega), if_neg (by omega)]

/-- The first line of the excerpt around a line. -/
def firstShown (contextLines number : Nat) : Nat :=
  max 1 (number - contextLines)

/-- The last line of the excerpt around a line of a file. -/
def lastShown (source : List (List Char)) (contextLines number : Nat) : Nat :=
  min source.length (number + contextLines)

/-- The lines of an excerpt, each with its number. -/
def shownWindow (source : List (List Char)) (contextLines number : Nat) : List (List Char × Nat) :=
  let first := firstShown contextLines number
  ((source.drop (first - 1)).take (lastShown source contextLines number + 1 - first)).zipIdx first

/-- The excerpt around a line of a file: a heading, and the lines of the window. -/
theorem excerpt_eq (colours : Bool) (contextLines : Nat) {source : List (List Char)} {number : Nat}
    (hfirst : 1 ≤ number) (hlast : number ≤ source.length) :
    let l : ReportStyle := ⟨colours, contextLines⟩
    excerpt l number source = l.paint .blue "    context:"
      :: (shownWindow source contextLines number).map fun e =>
        excerptLine l (max 3 (toString (lastShown source contextLines number)).length) e.2
          (e.2 == number) e.1 := by
  intro l
  have hinside : ¬ (decide ((number : Int) - 1 < 0)
      || decide ((source.length : Int) ≤ (number : Int) - 1)) = true := by
    simp
    omega
  have hstart : (max 0 ((number : Int) - 1 - l.contextLines)).toNat
      = firstShown contextLines number - 1 := by
    unfold firstShown
    show (max 0 ((number : Int) - 1 - (contextLines : Int))).toNat = _
    omega
  have hstop : (min (source.length : Int) ((number : Int) - 1 + l.contextLines + 1)).toNat
      = lastShown source contextLines number := by
    unfold lastShown
    show (min (source.length : Int) ((number : Int) - 1 + (contextLines : Int) + 1)).toNat = _
    omega
  have hpos : 1 ≤ firstShown contextLines number := Nat.le_max_left 1 _
  have hcount : lastShown source contextLines number - (firstShown contextLines number - 1)
      = lastShown source contextLines number + 1 - firstShown contextLines number := by
    omega
  have hmark : ∀ k : Nat, ((k : Int) == number) = (k == number) := by
    intro k
    rw [Bool.eq_iff_iff, beq_iff_eq, beq_iff_eq]
    omega
  unfold excerpt
  dsimp only
  rw [if_neg hinside, hstart, hstop, hcount, Nat.sub_add_cancel hpos]
  simp only [hmark]
  rfl

/-- Among the lines of an excerpt stands the one that it is around. -/
theorem filter_shownWindow (contextLines : Nat) {source : List (List Char)} {i : Nat}
    {line : List Char} (hline : source[i]? = some line) :
    (shownWindow source contextLines (i + 1)).filter (fun e => e.2 == i + 1) = [(line, i + 1)] := by
  have hlt : i < source.length := (List.getElem?_eq_some_iff.mp hline).1
  have hfirst : 1 ≤ firstShown contextLines (i + 1)
      ∧ firstShown contextLines (i + 1) ≤ i + 1 := by
    unfold firstShown
    omega
  have hlast : i + 1 ≤ lastShown source contextLines (i + 1) := by
    unfold lastShown
    omega
  have hindex : firstShown contextLines (i + 1) - 1 + (i + 1 - firstShown contextLines (i + 1))
      = i := by
    omega
  unfold shownWindow
  dsimp only
  rw [filter_zipIdx_eq, if_pos hfirst.2, List.getElem?_take, if_pos (by omega), List.getElem?_drop,
    hindex, hline]
  rfl

/-- Where a test finds the mark of every line and none in the heading, it finds one line of the
excerpt around a line of a file, which has the number of this line. -/
theorem filter_excerpt {colours : Bool} {isMark : String → Bool}
    (hmark : ∀ contextLines width number marked line,
      isMark (excerptLine ⟨colours, contextLines⟩ width number marked line) = marked)
    (hheading : ∀ contextLines,
      isMark ((ReportStyle.mk colours contextLines).paint .blue "    context:") = false)
    (contextLines : Nat) {source : List (List Char)} {i : Nat} {line : List Char}
    (hline : source[i]? = some line) :
    ∃ width, (excerpt ⟨colours, contextLines⟩ (i + 1) source).filter isMark
      = [excerptLine ⟨colours, contextLines⟩ width (i + 1) true line] := by
  have hlt : i < source.length := (List.getElem?_eq_some_iff.mp hline).1
  have hexcerpt := excerpt_eq colours contextLines (Nat.le_add_left 1 i) hlt
  have hnumber : ((i + 1 : Nat) : Int) = (i : Int) + 1 := rfl
  rw [hnumber] at hexcerpt
  refine ⟨max 3 (toString (lastShown source contextLines (i + 1))).length, ?_⟩
  rw [hexcerpt, List.filter_cons_of_neg (Bool.eq_false_iff.mp (hheading _)), List.filter_map]
  have hlines : (isMark ∘ fun e : List Char × Nat => excerptLine ⟨colours, contextLines⟩
      (max 3 (toString (lastShown source contextLines (i + 1))).length) e.2 (e.2 == i + 1) e.1)
        = fun e => e.2 == i + 1 :=
    funext fun e => hmark _ _ _ _ _
  rw [hlines, filter_shownWindow contextLines hline]
  simp

/-- The excerpt around a line of a file has one marked line, with the number of the line and the
line as excerpts show it. -/
theorem filter_isMarked_excerpt {contextLines : Int} (hcontext : 0 ≤ contextLines)
    {source : List (List Char)} {i : Nat} {line : List Char} (hline : source[i]? = some line) :
    ∃ width, (excerpt ⟨false, contextLines⟩ (i + 1) source).filter isMarked
      = ["      " ++ padLeft width (toString (i + 1)) ++ " > " ++ shownLine line] := by
  obtain ⟨n, rfl⟩ := Int.eq_ofNat_of_zero_le hcontext
  have hheading : isMarked "    context:" = false := by decide
  obtain ⟨width, hfilter⟩ := filter_excerpt isMarked_excerptLine (fun _ => hheading) n hline
  refine ⟨width, ?_⟩
  rw [hfilter, excerptLine_plain]
  rfl

/-! ## The lines of files -/

/-- A line with characters can be shown where it stands. -/
theorem getElem?_sourceLines {content : String} {i : Nat} {line : List Char}
    (hline : (splitLines content.toList)[i]? = some line) (hne : line ≠ []) :
    (sourceLines content)[i]? = some line := by
  unfold sourceLines
  dsimp only
  split
  · next hlast =>
    have hlt : i < (splitLines content.toList).length := (List.getElem?_eq_some_iff.mp hline).1
    -- The empty line at the end is not the line that is looked for.
    have hbefore : i ≠ (splitLines content.toList).length - 1 := by
      rintro rfl
      rw [beq_iff_eq, List.getLast?_eq_getElem?, hline] at hlast
      exact hne (Option.some.inj hlast)
    rw [List.getElem?_dropLast, if_pos (by omega), hline]
  · exact hline

/-- The lines of a file whose text is known. -/
theorem get?_ofTexts (texts : Entries String) (file : String) :
    (SourceLines.ofTexts texts).get? file = (texts.get? file).map sourceLines := by
  unfold SourceLines.ofTexts Table.get?
  rw [List.find?_map, Option.map_map, Option.map_map]
  rfl

/-! ## Paragraphs -/

/-- The paragraph of a finding at a line that can be shown. -/
theorem paragraph_eq (l : ReportStyle) {sources : SourceLines} {d : Diagnostic} {n : Int}
    (hline : d.line = some n) {source : List (List Char)}
    (hsource : sources.get? d.file = some source) (hshown : excerpt l n source ≠ []) :
    paragraph l sources d
      = titleLine l d :: (detailLines l d ++ "" :: excerpt l n source ++ adviceLines l d) := by
  unfold paragraph excerptLines
  rw [hsource, hline]
  dsimp only [Option.getD_some]
  split
  · next hnone => exact absurd hnone hshown
  · next ls hls => rw [List.append_assoc]

/-- The paragraph of each finding stands in the report. -/
theorem exists_report_eq (l : ReportStyle) (sources : SourceLines) {ds : List Diagnostic}
    {d : Diagnostic} (hd : d ∈ ds) :
    ∃ before after, report l sources ds
      = String.intercalate "\n" (before ++ paragraph l sources d ++ after) := by
  obtain ⟨pre, post, rfl⟩ := List.append_of_mem hd
  refine ⟨[l.apply ⟨some .red, true⟩ (heading (pre ++ d :: post))]
      ++ (pre.flatMap fun d => "" :: paragraph l sources d) ++ [""],
    post.flatMap fun d => "" :: paragraph l sources d, ?_⟩
  unfold report reportLines
  rw [if_neg (by simp), List.flatMap_append, List.flatMap_cons]
  simp

/-- With the texts of the files, the excerpt of a finding at a line that can be shown stands in its
paragraph. -/
theorem exists_report_excerpt (l : ReportStyle) {texts : Entries String} {ds : List Diagnostic}
    {d : Diagnostic} (hd : d ∈ ds) {n : Int} (hline : d.line = some n) {content : String}
    (hcontent : texts.get? d.file = some content)
    (hshown : excerpt l n (sourceLines content) ≠ []) :
    ∃ before after, report l (SourceLines.ofTexts texts) ds
      = String.intercalate "\n" (before ++ titleLine l d
        :: (detailLines l d ++ "" :: excerpt l n (sourceLines content) ++ adviceLines l d)
        ++ after) := by
  have hsource : (SourceLines.ofTexts texts).get? d.file = some (sourceLines content) := by
    rw [get?_ofTexts, hcontent]
    rfl
  obtain ⟨before, after, hreport⟩ := exists_report_eq l (SourceLines.ofTexts texts) hd
  rw [paragraph_eq l hline hsource hshown] at hreport
  exact ⟨before, after, hreport⟩

end FrontMatter
