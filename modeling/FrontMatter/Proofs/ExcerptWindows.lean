import FrontMatter.Proofs.Excerpts
import FrontMatter.Settings.Basic
import Mathlib.Data.List.Forall2

/-!
# `FrontMatter.Proofs.ExcerptWindows` — the lines that an excerpt shows

An excerpt shows the lines around a line of a file, from the first to the last of them, each behind
its number. It needs a number of lines to show on either side: a negative number leaves nothing of
it but the heading.

## Contents

* `AreLinesOf`, `sourceLines_areLinesOf`: the lines of a content.
* `IsRightAligned`, `IsExcerptLine`, `IsWindow`: what an excerpt shows.
* `excerpt_eq_nil_iff`, `isWindow_excerpt`: where there is an excerpt, and its lines.
* `excerpt_window`: the excerpts of a content.
* `bearsMark`, `bearsMark_excerptLine`: the lines that bear the mark.
* `MarksLine`, `marksLine_excerpt`, `excerpt_of_neg`: what is printed around a finding, and whether
  it shows the line.
* `excerptLines_marks_iff`: it is shown exactly where the number of lines is not negative.
-/

namespace FrontMatter

open Text (Colour Style escapeMark rendition splitLines)

/-! ## The lines of a content -/

/-- The lines of a content: what stands between its line feeds, without an empty piece at the
end. -/
def AreLinesOf (content : String) (source : List (List Char)) : Prop :=
  content.toList.splitOn '\n' = source ++ [[]]
    ∨ content.toList.splitOn '\n' = source ∧ source.getLast? ≠ some []

/-- The lines that can be shown are the lines of the content. -/
theorem sourceLines_areLinesOf (content : String) : AreLinesOf content (sourceLines content) := by
  unfold AreLinesOf sourceLines splitLines
  dsimp only
  split
  · next h =>
    left
    rw [beq_iff_eq, List.getLast?_eq_some_iff] at h
    obtain ⟨source, hsource⟩ := h
    rw [hsource, List.dropLast_concat]
  · next h =>
    right
    exact ⟨rfl, fun hlast => h (beq_iff_eq.mpr hlast)⟩

/-- Only a content without characters has no lines. -/
theorem sourceLines_eq_nil_iff {content : String} : sourceLines content = [] ↔ content = "" := by
  constructor
  · intro h
    have hjoined : ['\n'].intercalate (content.toList.splitOn '\n') = content.toList :=
      List.intercalate_splitOn '\n'
    rcases sourceLines_areLinesOf content with hpieces | ⟨hpieces, -⟩
    · rw [h, List.nil_append] at hpieces
      rw [hpieces] at hjoined
      exact String.toList_eq_nil_iff.mp hjoined.symm
    · rw [h] at hpieces
      exact absurd hpieces (List.splitOn_ne_nil _ _)
  · rintro rfl
    decide

/-! ## Numbers -/

/-- A text that stands behind blanks in a field. -/
def IsRightAligned (width : Nat) (text field : String) : Prop :=
  (∃ blanks, field = String.ofList (List.replicate blanks ' ') ++ text) ∧ field.length = width

/-- A text that is filled up stands right-aligned, if the width is not less than its own. -/
theorem isRightAligned_padLeft {width : Nat} {text : String} (h : text.length ≤ width) :
    IsRightAligned width text (padLeft width text) := by
  refine ⟨⟨width - text.length, rfl⟩, ?_⟩
  unfold padLeft
  rw [String.length_append, String.length_ofList, List.length_replicate]
  omega

/-- A greater number has no fewer digits. -/
theorem length_toString_mono {m n : Nat} (h : m ≤ n) :
    (toString m).length ≤ (toString n).length := by
  have hdigits : ∀ k : Nat, (toString k).length = (Nat.toDigits 10 k).length := by
    intro k
    rw [Nat.toString_eq_repr, ← String.length_toList, Nat.toList_repr]
  rw [hdigits, hdigits]
  have hpos : 0 < (Nat.toDigits 10 n).length := Nat.length_toDigits_pos
  rw [Nat.length_toDigits_le_iff (by decide) hpos]
  calc m ≤ n := h
    _ < 10 ^ (Nat.toDigits 10 n).length :=
      (Nat.length_toDigits_le_iff (by decide) hpos).mp (Nat.le_refl _)

/-! ## Windows -/

/-- A line of an excerpt: the number of a line of the file, right-aligned, a mark on the one line
and a bar on every other, and the text of the line, of at most 80 characters. -/
def IsExcerptLine (source : List (List Char)) (width marked number : Nat) (shown : String) : Prop :=
  ∃ line field text, source[number - 1]? = some line
    ∧ IsRightAligned width (toString number) field ∧ IsShownAs line text ∧ text.length ≤ 80
    ∧ shown = "      " ++ field ++ (if number = marked then " > " else " │ ") ++ text

/-- The excerpt around a line: a heading, and the lines from `n` lines before it, or the first, to
`n` lines after it, or the last, one after the other. The numbers have a common width, that of the
last one if it is more than three. -/
def IsWindow (source : List (List Char)) (n marked : Nat) (block : List String) : Prop :=
  let first := max 1 (marked - n)
  let last := min source.length (marked + n)
  ∃ shown, block = "    context:" :: shown
    ∧ List.Forall₂ (IsExcerptLine source (max 3 (toString last).length) marked)
      (List.range' first (last + 1 - first)) shown

/-- An excerpt shows at most 80 characters of a line. -/
theorem IsShownAs.length_le {line : List Char} {text : String} (h : IsShownAs line text) :
    text.length ≤ 80 := by
  obtain ⟨cs, returns, -, -, rfl⟩ := h
  rw [String.length_ofList]
  split
  · have hpoints : ['.', '.', '.'].length = 3 := rfl
    rw [List.length_append, List.length_take, hpoints]
    omega
  · next hshort => exact Nat.not_lt.mp hshort

/-- There is no excerpt exactly where there is no line. -/
theorem excerpt_eq_nil_iff (l : ReportStyle) (line : Int) (source : List (List Char)) :
    excerpt l line source = [] ↔ line < 1 ∨ (source.length : Int) < line := by
  unfold excerpt
  dsimp only
  split
  · next h =>
    simp at h
    simp
    omega
  · next h =>
    simp at h
    simp
    omega

/-- The lines of the window are those of the file, each with its number. -/
theorem of_mem_shownWindow {source : List (List Char)} {n number : Nat} {e : List Char × Nat}
    (h : e ∈ shownWindow source n number) :
    e.2 ≤ lastShown source n number ∧ source[e.2 - 1]? = some e.1 := by
  obtain ⟨line, k⟩ := e
  unfold shownWindow at h
  obtain ⟨hle, hk⟩ := List.mk_mem_zipIdx_iff_le_and_getElem?_sub.mp h
  rw [List.getElem?_take] at hk
  split at hk
  · next hlt =>
    rw [List.getElem?_drop] at hk
    have hfirst : 1 ≤ firstShown n number := Nat.le_max_left 1 _
    have hindex : firstShown n number - 1 + (k - firstShown n number) = k - 1 := by omega
    rw [hindex] at hk
    exact ⟨by omega, hk⟩
  · cases hk

/-- The numbers of the window follow one another. -/
theorem map_snd_shownWindow (source : List (List Char)) (n number : Nat) :
    (shownWindow source n number).map Prod.snd = List.range' (firstShown n number)
      (lastShown source n number + 1 - firstShown n number) := by
  unfold shownWindow
  dsimp only
  rw [List.zipIdx_map_snd, List.length_take, List.length_drop]
  have hfirst : 1 ≤ firstShown n number := Nat.le_max_left 1 _
  have hlast : lastShown source n number ≤ source.length := Nat.min_le_left _ _
  congr 1
  omega

/-- The excerpt around a line of a file shows the window around it. -/
theorem isWindow_excerpt (n : Nat) {source : List (List Char)} {number : Nat}
    (hfirst : 1 ≤ number) (hlast : number ≤ source.length) :
    IsWindow source n number (excerpt ⟨false, n⟩ number source) := by
  refine ⟨_, excerpt_eq false n hfirst hlast, ?_⟩
  show List.Forall₂ _ (List.range' (firstShown n number)
    (lastShown source n number + 1 - firstShown n number)) _
  rw [← map_snd_shownWindow, List.forall₂_map_left_iff, List.forall₂_map_right_iff,
    List.forall₂_same]
  intro e he
  obtain ⟨hnumber, hline⟩ := of_mem_shownWindow he
  have hwidth : (toString e.2).length ≤ max 3 (toString (lastShown source n number)).length :=
    Nat.le_trans (length_toString_mono hnumber) (Nat.le_max_right 3 _)
  have hshown := shownLine_isShownAs e.1
  refine ⟨e.1, _, _, hline, isRightAligned_padLeft hwidth, hshown, hshown.length_le, ?_⟩
  rw [excerptLine_plain]
  simp only [beq_iff_eq]
  rfl

/-- **The lines of an excerpt.** The lines of a content are what stands between its line feeds,
without an empty piece at the end. There is no excerpt around a line exactly where the content is
empty or does not have the line. Everywhere else the excerpt shows the window around the line. -/
theorem excerpt_window (content : String) (line : Int) (n : Nat) :
    let source := sourceLines content
    let block := excerpt ⟨false, n⟩ line source
    AreLinesOf content source
      ∧ (block = [] ↔ content = "" ∨ ¬ (1 ≤ line ∧ line ≤ source.length))
      ∧ (block ≠ [] → ∃ number : Nat, line = number ∧ IsWindow source n number block) := by
  intro source block
  have hnone : block = [] ↔ line < 1 ∨ (source.length : Int) < line :=
    excerpt_eq_nil_iff ⟨false, n⟩ line source
  refine ⟨sourceLines_areLinesOf content, ?_, ?_⟩
  · rw [hnone]
    constructor
    · intro h
      right
      omega
    · rintro (hempty | h)
      · have hsource : source = [] := sourceLines_eq_nil_iff.mpr hempty
        rw [hsource, List.length_nil]
        omega
      · omega
  · intro hblock
    rw [ne_eq, hnone] at hblock
    obtain ⟨number, rfl⟩ : ∃ number : Nat, line = number := ⟨line.toNat, by omega⟩
    exact ⟨number, rfl, isWindow_excerpt n (by omega) (by omega)⟩

/-- The excerpt around the last line of a text with an empty line at its end, which is shown, and a
line feed behind it, which starts no further line. -/
theorem excerpt_window_lastLine :
    let source := sourceLines "first\r\nsecond\r\n\n"
    let block := excerpt ⟨false, 1⟩ 3 source
    block ≠ [] ∧ IsWindow source 1 3 block
      ∧ block = ["    context:", "        2 │ second", "        3 > "] := by
  intro source block
  have hblock : block = ["    context:", "        2 │ second", "        3 > "] := by decide
  have hshown : block ≠ [] := by
    rw [hblock]
    exact List.cons_ne_nil _ _
  obtain ⟨-, -, hwindow⟩ := excerpt_window "first\r\nsecond\r\n\n" 3 1
  obtain ⟨number, hnumber, hlines⟩ := hwindow hshown
  obtain rfl : number = 3 := by omega
  exact ⟨hshown, hlines, hblock⟩

/-! ## The marked line -/

/-- The characters before the mark of a line: blanks, digits, and those of the escape sequences that
turn a colour on and off. -/
def isBeforeMark (c : Char) : Bool :=
  c == ' ' || c.isDigit || c == escapeMark || c == '[' || c == 'm'

/-- Whether a line bears the mark: an arrow where colours are used, and `>` where they are not. -/
def bearsMark (colours : Bool) (line : String) : Bool :=
  (line.toList.dropWhile isBeforeMark).head? == some (if colours then '→' else '>')

/-- A text behind which the mark may stand. -/
def IsBeforeMark (text : String) : Prop :=
  ∀ c ∈ text.toList, isBeforeMark c = true

/-- Texts behind which the mark may stand, one after the other. -/
theorem IsBeforeMark.append {s t : String} (hs : IsBeforeMark s) (ht : IsBeforeMark t) :
    IsBeforeMark (s ++ t) := by
  intro c hc
  rw [String.toList_append, List.mem_append] at hc
  exact hc.elim (hs c) (ht c)

/-- What is painted stands between texts behind which the mark may stand. -/
theorem exists_paint_eq (l : ReportStyle) (colour : Colour) :
    ∃ opening closing, IsBeforeMark opening ∧ IsBeforeMark closing
      ∧ ∀ text, l.paint colour text = opening ++ text ++ closing := by
  have hempty : IsBeforeMark "" := by
    intro c hc
    cases hc
  unfold ReportStyle.paint ReportStyle.apply
  cases l.colours with
  | false => exact ⟨"", "", hempty, hempty, fun text => by simp⟩
  | true =>
    refine ⟨Style.opening ⟨some colour, false⟩, rendition "0", ?_, ?_, fun text => rfl⟩
    · apply List.all_eq_true.mp
      cases colour <;> decide
    · apply List.all_eq_true.mp
      decide

/-- A line whose first character that does not stand before a mark is known. -/
theorem bearsMark_eq (colours : Bool) {before : String} {c : Char} (h : IsBeforeMark before)
    (hc : isBeforeMark c = false) (after : String) :
    bearsMark colours (before ++ String.singleton c ++ after)
      = (c == if colours then '→' else '>') := by
  unfold bearsMark
  rw [String.append_assoc, String.toList_append, List.dropWhile_append_of_pos h,
    String.toList_append, String.toList_singleton, List.singleton_append,
    List.dropWhile_cons_of_neg (Bool.eq_false_iff.mp hc)]
  rfl

/-- A line of an excerpt bears the mark exactly when it is shown as the marked one. -/
theorem bearsMark_excerptLine (l : ReportStyle) (width number : Nat) (marked : Bool)
    (line : List Char) : bearsMark l.colours (excerptLine l width number marked line) = marked := by
  have hmargin : IsBeforeMark "      " := List.all_eq_true.mp (by decide)
  have hblank : IsBeforeMark " " := List.all_eq_true.mp (by decide)
  have hnumber : IsBeforeMark (padLeft width (toString number)) := by
    intro c hc
    have hdigit := isDigit_or_blank_of_mem_padLeft hc
    unfold isBeforeMark
    rw [hdigit]
    rfl
  unfold excerptLine
  dsimp only
  cases marked with
  | true =>
    obtain ⟨opening, closing, hopening, hclosing, hpaint⟩ := exists_paint_eq l .red
    have hmark : (if l.colours then "→" else ">")
        = String.singleton (if l.colours then '→' else '>') := by
      cases l.colours <;> decide
    have hstop : isBeforeMark (if l.colours then '→' else '>') = false := by
      cases l.colours <;> decide
    have hbefore := (((hmargin.append hopening).append hnumber).append hclosing).append
      (hblank.append hopening)
    have hmarked := bearsMark_eq l.colours hbefore hstop
      (closing ++ " " ++ l.paint .red (shownLine line))
    rw [if_pos rfl, hpaint (padLeft width (toString number)), hmark,
      hpaint (String.singleton (if l.colours then '→' else '>'))]
    simp only [String.append_assoc] at hmarked ⊢
    rw [hmarked, beq_self_eq_true]
  | false =>
    obtain ⟨opening, closing, hopening, hclosing, hpaint⟩ := exists_paint_eq l .brightBlack
    have hbar : " │ " = " " ++ String.singleton '│' ++ " " := by decide
    have hbefore := (((hmargin.append hopening).append hnumber).append hclosing).append hblank
    have hstop : isBeforeMark '│' = false := by decide
    have hplain := bearsMark_eq l.colours hbefore hstop
      (" " ++ l.paint .brightBlack (shownLine line))
    rw [if_neg Bool.false_ne_true, hpaint (padLeft width (toString number)), hbar]
    simp only [String.append_assoc] at hplain ⊢
    rw [hplain]
    cases l.colours <;> decide

/-- The heading of an excerpt bears no mark. -/
theorem bearsMark_heading (l : ReportStyle) :
    bearsMark l.colours (l.paint .blue "    context:") = false := by
  obtain ⟨opening, closing, hopening, -, hpaint⟩ := exists_paint_eq l .blue
  have hblanks : IsBeforeMark "    " := List.all_eq_true.mp (by decide)
  have hwritten : l.paint .blue "    context:"
      = opening ++ "    " ++ String.singleton 'c' ++ ("ontext:" ++ closing) := by
    have hword : "    context:" = "    " ++ String.singleton 'c' ++ "ontext:" := by decide
    rw [hpaint, hword]
    simp only [String.append_assoc]
  rw [hwritten, bearsMark_eq l.colours (hopening.append hblanks) (by decide)]
  cases l.colours <;> decide

/-! ## What is printed around a finding -/

/-- A block of lines in which exactly one bears the mark, and that one has the number and the text
of a line of the file. -/
def MarksLine (l : ReportStyle) (source : List (List Char)) (line : Int) (block : List String) :
    Prop :=
  ∃ (i : Nat) (cs : List Char) (width : Nat) (field text : String), line = i + 1
    ∧ source[i]? = some cs ∧ IsRightAligned width (toString (i + 1)) field ∧ IsShownAs cs text
    ∧ block.filter (bearsMark l.colours) = ["      " ++ l.paint .red field ++ " "
      ++ l.paint .red (if l.colours then "→" else ">") ++ " " ++ l.paint .red text]

/-- The excerpt around a line shows the line, if no negative number of lines is asked for. -/
theorem marksLine_excerpt {l : ReportStyle} (hcontext : 0 ≤ l.contextLines)
    {source : List (List Char)} {i : Nat} (hi : i < source.length) :
    MarksLine l source (i + 1) (excerpt l (i + 1) source) := by
  obtain ⟨colours, contextLines⟩ := l
  obtain ⟨n, rfl⟩ := Int.eq_ofNat_of_zero_le hcontext
  have hmark : ∀ m width number marked line,
      bearsMark colours (excerptLine ⟨colours, m⟩ width number marked line) = marked :=
    fun m => bearsMark_excerptLine ⟨colours, m⟩
  have hheading : ∀ m,
      bearsMark colours ((ReportStyle.mk colours m).paint .blue "    context:") = false :=
    fun m => bearsMark_heading ⟨colours, m⟩
  obtain ⟨width, hfilter⟩ := filter_excerpt hmark hheading n (List.getElem?_eq_getElem hi)
  -- A number that does not fit into the width is written in its own.
  have hfield : IsRightAligned (padLeft width (toString (i + 1))).length (toString (i + 1))
      (padLeft width (toString (i + 1))) := ⟨⟨_, rfl⟩, rfl⟩
  exact ⟨i, source[i], _, _, _, rfl, List.getElem?_eq_getElem hi, hfield,
    shownLine_isShownAs source[i], hfilter⟩

/-- The excerpt around a line is the heading alone, if a negative number of lines is asked for. -/
theorem excerpt_of_neg {l : ReportStyle} (hcontext : l.contextLines < 0)
    {source : List (List Char)} {i : Nat} (hi : i < source.length) :
    excerpt l (i + 1) source = [l.paint .blue "    context:"] := by
  have hinside : ¬ (decide ((i : Int) + 1 - 1 < 0)
      || decide ((source.length : Int) ≤ (i : Int) + 1 - 1)) = true := by
    simp
    omega
  -- The window ends before it starts.
  have hempty : (min (source.length : Int) ((i : Int) + 1 - 1 + l.contextLines + 1)).toNat
      - (max 0 ((i : Int) + 1 - 1 - l.contextLines)).toNat = 0 := by
    omega
  unfold excerpt
  dsimp only
  rw [if_neg hinside, hempty, List.take_zero]
  rfl

/-- A finding with an excerpt is at a line of the file. -/
theorem exists_of_excerptLines_ne_nil {l : ReportStyle} {d : Diagnostic} {line : Int}
    (hline : d.line = some line) {source : List (List Char)} (h : excerptLines l d source ≠ []) :
    ∃ i < source.length, line = i + 1
      ∧ excerptLines l d source = "" :: excerpt l (i + 1) source := by
  unfold excerptLines at h ⊢
  rw [hline] at h ⊢
  dsimp only at h ⊢
  have hshown : excerpt l line source ≠ [] := by
    intro hnone
    rw [hnone] at h
    exact h rfl
  have hinside := mt (excerpt_eq_nil_iff l line source).mpr hshown
  obtain ⟨i, rfl⟩ : ∃ i : Nat, line = i + 1 := ⟨(line - 1).toNat, by omega⟩
  refine ⟨i, by omega, rfl, ?_⟩
  split
  · next hnone => exact absurd hnone hshown
  · rfl

/-- **What is printed around a finding shows its line, where the number of lines is not negative.**
In every style, for every finding at a line and every file: if lines of the file are printed around
the finding, exactly one of them is marked, and this is the line of the finding, if and only if the
number of lines to show on either side is not negative. If it is negative, the heading is printed
and no line at all. -/
theorem excerptLines_marks_iff (l : ReportStyle) {d : Diagnostic} {line : Int}
    (hline : d.line = some line) {source : List (List Char)} (h : excerptLines l d source ≠ []) :
    (MarksLine l source line (excerptLines l d source) ↔ 0 ≤ l.contextLines)
      ∧ (l.contextLines < 0 → excerptLines l d source = ["", l.paint .blue "    context:"]) := by
  obtain ⟨i, hi, rfl, hlines⟩ := exists_of_excerptLines_ne_nil hline h
  have hblank : bearsMark l.colours "" = false := by
    cases l.colours <;> decide
  have hfilter : (excerptLines l d source).filter (bearsMark l.colours)
      = (excerpt l (i + 1) source).filter (bearsMark l.colours) := by
    rw [hlines, List.filter_cons_of_neg (Bool.eq_false_iff.mp hblank)]
  have hneg : l.contextLines < 0 →
      excerptLines l d source = ["", l.paint .blue "    context:"] := by
    intro hcontext
    rw [hlines, excerpt_of_neg hcontext hi]
  refine ⟨⟨?_, ?_⟩, hneg⟩
  · rintro ⟨j, cs, width, field, text, -, -, -, -, hmarked⟩
    -- The heading and the empty line before it bear no mark.
    refine Int.not_lt.mp fun hcontext => ?_
    rw [hneg hcontext, List.filter_cons_of_neg (Bool.eq_false_iff.mp hblank),
      List.filter_cons_of_neg (Bool.eq_false_iff.mp (bearsMark_heading l))] at hmarked
    cases hmarked
  · intro hcontext
    obtain ⟨j, cs, width, field, text, hj, hcs, hfield, htext, hmarked⟩ :=
      marksLine_excerpt hcontext hi
    exact ⟨j, cs, width, field, text, hj, hcs, hfield, htext, hfilter.trans hmarked⟩

/-- A finding about the second of three lines. -/
def badId : Diagnostic :=
  { file := "docs/a.md", kind := .invalidFormat, message := "Invalid id 'X'", line := some 2 }

/-- The lines of the file that it is in. -/
def badIdLines : List (List Char) :=
  sourceLines "---\nid: X\n---\n"

/-- With colours and no lines on either side, the line of the finding is printed. -/
theorem marksLine_badId :
    badId.line = some 2 ∧ excerptLines ⟨true, 0⟩ badId badIdLines ≠ []
      ∧ MarksLine ⟨true, 0⟩ badIdLines 2 (excerptLines ⟨true, 0⟩ badId badIdLines) := by
  have hprinted : excerptLines ⟨true, 0⟩ badId badIdLines ≠ [] := by decide
  have hline : badId.line = some 2 := rfl
  obtain ⟨hmarks, -⟩ := excerptLines_marks_iff ⟨true, 0⟩ hline hprinted
  exact ⟨hline, hprinted, hmarks.mpr (Int.le_refl 0)⟩

/-- A negative number of lines is accepted as a setting, and leaves the heading without the line of
the finding. -/
theorem not_marksLine_negative :
    ∃ s, Settings.load Tree.empty [("TENETLINT_CONTEXT_LINES", "-1")] = .ok s
      ∧ excerptLines ⟨false, s.contextLines⟩ badId badIdLines = ["", "    context:"]
      ∧ ¬ MarksLine ⟨false, s.contextLines⟩ badIdLines 2
        (excerptLines ⟨false, s.contextLines⟩ badId badIdLines) := by
  have hcontext : ((Settings.load Tree.empty [("TENETLINT_CONTEXT_LINES", "-1")]).toOption.map
      Settings.contextLines) = some (-1) := by decide +kernel
  cases hload : Settings.load Tree.empty [("TENETLINT_CONTEXT_LINES", "-1")] with
  | error f =>
    rw [hload] at hcontext
    cases hcontext
  | ok s =>
    rw [hload] at hcontext
    have hlines : s.contextLines = -1 := Option.some.inj hcontext
    have hprinted : excerptLines ⟨false, -1⟩ badId badIdLines = ["", "    context:"] := by decide
    refine ⟨s, rfl, ?_, ?_⟩
    · rw [hlines, hprinted]
    · rw [hlines, hprinted]
      rintro ⟨i, cs, width, field, text, -, -, -, -, hmarked⟩
      have hnone : ["", "    context:"].filter (bearsMark false) = [] := by decide
      rw [hnone] at hmarked
      cases hmarked

end FrontMatter
