import FrontMatter.Block.LineMap
import FrontMatter.Proofs.BlockEnd
import FrontMatter.Report.Text

/-!
# `FrontMatter.Proofs.ReturnFeeds` — either kind of line break gives the same

Lines end in a line feed, or in a carriage return and a line feed. A text and the same text with the
other kind of line break have the same block, up to its line breaks, the same lines of keys, and the
same excerpts.

The search for the end of a block takes a carriage return before a line feed as a part of the line
break. Everything else splits at line feeds alone, so there the carriage return is the last
character of a line: no key reaches it, and an excerpt leaves it out.

## Contents

* `addReturns`, `withReturns`: a text with the other kind of line break.
* `closes_addReturns`, `bodyBefore?_addReturns`, `extract?_withReturns`: the block.
* `splitLines_addReturns`: the lines.
* `keyOfLine?_append_return`, `ofText_withReturns`: the lines of keys.
* `shownLine_append_return`, `excerpt_withReturns`: the excerpts.
* `withReturns_changes_nothing`: all of them.
-/

namespace FrontMatter

open Block (LineMap afterBreak? afterHyphens? bodyBefore? closes endsBody extract? isGap isKeyChar
  keyOfLine?)
open Text (splitLines trimEnd)

/-! ## The other kind of line break -/

/-- The characters with a carriage return before every line feed. -/
def addReturns : List Char → List Char
  | [] => []
  | c :: rest => if c = '\n' then '\r' :: '\n' :: addReturns rest else c :: addReturns rest

/-- The text with a carriage return before every line feed. -/
def withReturns (text : String) : String :=
  String.ofList (addReturns text.toList)

/-- A line feed gets a carriage return before it. -/
theorem addReturns_feed (rest : List Char) :
    addReturns ('\n' :: rest) = '\r' :: '\n' :: addReturns rest :=
  if_pos rfl

/-- Any other character stays as it is. -/
theorem addReturns_cons {c : Char} (hc : c ≠ '\n') (rest : List Char) :
    addReturns (c :: rest) = c :: addReturns rest :=
  if_neg hc

/-- Texts one after the other get their carriage returns by themselves. -/
theorem addReturns_append (cs ds : List Char) :
    addReturns (cs ++ ds) = addReturns cs ++ addReturns ds := by
  induction cs with
  | nil => rfl
  | cons c cs ih =>
    by_cases hc : c = '\n'
    · subst hc
      rw [List.cons_append, addReturns_feed, addReturns_feed, ih]
      rfl
    · rw [List.cons_append, addReturns_cons hc, addReturns_cons hc, ih]
      rfl

/-- What starts with a character other than a carriage return has started with it before. -/
theorem exists_of_addReturns_eq_cons {cs ds : List Char} {c : Char} (hc : c ≠ '\r')
    (h : addReturns cs = c :: ds) : ∃ rest, cs = c :: rest ∧ ds = addReturns rest := by
  cases cs with
  | nil => cases h
  | cons d rest =>
    by_cases hd : d = '\n'
    · subst hd
      rw [addReturns_feed] at h
      exact absurd (List.cons.inj h).1.symm hc
    · rw [addReturns_cons hd] at h
      obtain ⟨rfl, rfl⟩ := List.cons.inj h
      exact ⟨rest, rfl, rfl⟩

/-! ## The block -/

/-- A line break is read off as before. -/
theorem afterBreak?_addReturns {cs : List Char} (h : '\r' ∉ cs) :
    afterBreak? (addReturns cs) = (afterBreak? cs).map addReturns := by
  cases cs with
  | nil => rfl
  | cons c rest =>
    by_cases hc : c = '\n'
    · subst hc
      rw [addReturns_feed]
      rfl
    · have hreturn : c ≠ '\r' := fun he => h (he ▸ List.mem_cons_self)
      rw [addReturns_cons hc]
      simp [afterBreak?, hc, hreturn]

/-- Three hyphens are read off as before. -/
theorem afterHyphens?_addReturns (cs : List Char) :
    afterHyphens? (addReturns cs) = (afterHyphens? cs).map addReturns := by
  have hhyphen : ('-' : Char) ≠ '\r' := by decide
  rw [Option.ext_iff]
  intro after
  rw [Block.afterHyphens?_eq_some_iff, Option.map_eq_some_iff]
  constructor
  · intro h
    obtain ⟨cs₁, rfl, h₁⟩ := exists_of_addReturns_eq_cons hhyphen h
    obtain ⟨cs₂, rfl, h₂⟩ := exists_of_addReturns_eq_cons hhyphen h₁.symm
    obtain ⟨rest, rfl, rfl⟩ := exists_of_addReturns_eq_cons hhyphen h₂.symm
    exact ⟨rest, rfl, rfl⟩
  · rintro ⟨rest, hrest, rfl⟩
    rw [Block.afterHyphens?_eq_some_iff.mp hrest]
    rfl

/-- Spaces and tabs are passed as before. -/
theorem dropWhile_isGap_addReturns (cs : List Char) :
    (addReturns cs).dropWhile isGap = addReturns (cs.dropWhile isGap) := by
  induction cs with
  | nil => rfl
  | cons c cs ih =>
    by_cases hc : c = '\n'
    · subst hc
      rw [addReturns_feed, List.dropWhile_cons_of_neg (by decide),
        List.dropWhile_cons_of_neg (by decide), addReturns_feed]
    · rw [addReturns_cons hc]
      by_cases hgap : isGap c = true
      · rw [List.dropWhile_cons_of_pos hgap, List.dropWhile_cons_of_pos hgap, ih]
      · rw [List.dropWhile_cons_of_neg hgap, List.dropWhile_cons_of_neg hgap, addReturns_cons hc]

/-- A closing line is one with either kind of line break. -/
theorem closes_addReturns {cs : List Char} (h : '\r' ∉ cs) :
    closes (addReturns cs) = closes cs := by
  unfold closes
  rw [afterHyphens?_addReturns]
  cases hhyphens : afterHyphens? cs with
  | none => rfl
  | some rest =>
    have hrest : '\r' ∉ rest.dropWhile isGap := by
      intro hmem
      have hsub := List.dropWhile_sublist (l := rest) isGap
      rw [Block.afterHyphens?_eq_some_iff] at hhyphens
      exact h (hhyphens ▸ by simp [hsub.mem hmem])
    have hempty : (addReturns (rest.dropWhile isGap)).isEmpty
        = (rest.dropWhile isGap).isEmpty := by
      cases rest.dropWhile isGap with
      | nil => rfl
      | cons c ds =>
        unfold addReturns
        split <;> rfl
    simp only [Option.map_some]
    rw [dropWhile_isGap_addReturns, hempty, afterBreak?_addReturns hrest, Option.isSome_map]

/-- The search for the end of a body stops before a line break and a closing line, and passes any
other character. -/
theorem bodyBefore?_cons (done : List Char) (c : Char) (rest : List Char) :
    bodyBefore? done (c :: rest)
      = if endsBody (c :: rest) then some done.reverse else bodyBefore? (c :: done) rest :=
  rfl

/-- The body before a closing line is found as before, with its own carriage returns. -/
theorem bodyBefore?_addReturns {cs : List Char} (h : '\r' ∉ cs) {done passed : List Char}
    (hpassed : passed.reverse = addReturns done.reverse) :
    bodyBefore? passed (addReturns cs) = (bodyBefore? done cs).map addReturns := by
  -- By induction on what is left, with any text passed before.
  induction cs generalizing done passed with
  | nil => rfl
  | cons c rest ih =>
    have hrest : '\r' ∉ rest := fun hmem => h (List.mem_cons_of_mem c hmem)
    by_cases hc : c = '\n'
    · subst hc
      have hreturn : endsBody ('\r' :: '\n' :: addReturns rest) = closes rest :=
        closes_addReturns hrest
      have hfeed : endsBody ('\n' :: addReturns rest) = closes rest := closes_addReturns hrest
      have hplain : endsBody ('\n' :: rest) = closes rest := rfl
      rw [addReturns_feed, bodyBefore?_cons, bodyBefore?_cons done, hreturn, hplain]
      by_cases hcloses : closes rest = true
      · rw [if_pos hcloses, if_pos hcloses, hpassed]
        rfl
      · -- The search passes the carriage return first, and then the line feed.
        rw [if_neg hcloses, if_neg hcloses, bodyBefore?_cons, hfeed, if_neg hcloses]
        apply ih hrest
        rw [List.reverse_cons, List.reverse_cons, List.reverse_cons, hpassed, addReturns_append]
        simp [addReturns]
    · have hreturn : c ≠ '\r' := fun he => h (he ▸ List.mem_cons_self)
      have hends : ∀ ds, endsBody (c :: ds) = false := by
        intro ds
        simp [endsBody, afterBreak?, hc, hreturn]
      rw [addReturns_cons hc, bodyBefore?_cons, bodyBefore?_cons done, hends, hends,
        if_neg (by simp), if_neg (by simp)]
      apply ih hrest
      rw [List.reverse_cons, List.reverse_cons, hpassed, addReturns_append, addReturns_cons hc]
      rfl

/-- The block is the same, up to its line breaks. -/
theorem extract?_withReturns {text : String} (h : '\r' ∉ text.toList) :
    extract? (withReturns text) = (extract? text).map withReturns := by
  unfold extract? withReturns
  rw [String.toList_ofList, afterHyphens?_addReturns]
  cases hhyphens : afterHyphens? text.toList with
  | none => rfl
  | some opened =>
    have hopened : '\r' ∉ opened := by
      intro hmem
      rw [Block.afterHyphens?_eq_some_iff] at hhyphens
      exact h (hhyphens ▸ by simp [hmem])
    rw [Option.map_some, Option.bind_some, Option.bind_some, afterBreak?_addReturns hopened]
    cases hbreak : afterBreak? opened with
    | none => rfl
    | some rest =>
      have hrest : '\r' ∉ rest := by
        intro hmem
        obtain ⟨e, -, heq, -⟩ := Block.endedLines_of_break hbreak
        exact hopened (heq ▸ List.mem_append_right _ hmem)
      have hstart : ([] : List Char).reverse = addReturns ([] : List Char).reverse := rfl
      rw [Option.map_some]
      dsimp only
      rw [bodyBefore?_addReturns hrest hstart, closes_addReturns hrest]
      cases bodyBefore? [] rest with
      | some body => simp
      | none => cases closes rest <;> rfl

/-! ## The lines -/

/-- Every line but the last one has a carriage return more at its end. -/
theorem splitLines_addReturns (cs : List Char) :
    ∃ before last, splitLines cs = before ++ [last]
      ∧ splitLines (addReturns cs) = before.map (· ++ ['\r']) ++ [last] := by
  unfold splitLines
  induction cs with
  | nil => exact ⟨[], [], rfl, rfl⟩
  | cons c cs ih =>
    obtain ⟨before, last, hplain, hreturns⟩ := ih
    by_cases hc : c = '\n'
    · subst hc
      refine ⟨[] :: before, last, ?_, ?_⟩
      · rw [List.splitOn_cons_eq_if_modifyHead, if_pos (beq_self_eq_true _), hplain]
        rfl
      · rw [addReturns_feed]
        show List.splitOn '\n' (['\r'] ++ '\n' :: addReturns cs) = _
        rw [List.splitOn_append_cons_self_of_not_mem (by decide), hreturns]
        rfl
    · -- The character stands at the start of the first line, which may be the last one.
      have hne : ¬ (c == '\n') = true := by simpa using hc
      rw [addReturns_cons hc, List.splitOn_cons_eq_if_modifyHead,
        List.splitOn_cons_eq_if_modifyHead, if_neg hne, if_neg hne, hplain, hreturns]
      cases before with
      | nil => exact ⟨[], c :: last, rfl, rfl⟩
      | cons first before => exact ⟨(c :: first) :: before, last, rfl, rfl⟩

/-! ## The lines of keys -/

/-- A carriage return at the end of a line changes nothing about the key at its start. -/
theorem keyOfLine?_append_return (line : List Char) :
    keyOfLine? (line ++ ['\r']) = keyOfLine? line := by
  have hdrop : (((line ++ ['\r']).dropWhile isKeyChar).head? == some ':')
      = ((line.dropWhile isKeyChar).head? == some ':') := by
    induction line with
    | nil => rfl
    | cons c line ih =>
      rw [List.cons_append, List.dropWhile_cons, List.dropWhile_cons]
      split
      · exact ih
      · rfl
  have htake : (line ++ ['\r']).takeWhile isKeyChar = line.takeWhile isKeyChar := by
    clear hdrop
    induction line with
    | nil => rfl
    | cons c line ih => simp only [List.cons_append, List.takeWhile_cons, ih]
  unfold keyOfLine?
  rw [htake, hdrop]

/-- The lines of keys depend on the lines only by the keys at their starts. -/
theorem addLines_congr (isKey : String → Bool) {lines others : List (List Char)}
    (h : lines.map keyOfLine? = others.map keyOfLine?) (number : Nat) (done : LineMap) :
    LineMap.addLines isKey number done lines = LineMap.addLines isKey number done others := by
  induction lines generalizing others number done with
  | nil =>
    obtain rfl := List.map_eq_nil_iff.mp h.symm
    rfl
  | cons line lines ih =>
    cases others with
    | nil => cases h
    | cons other others =>
      obtain ⟨hkey, hrest⟩ := List.cons.inj h
      unfold LineMap.addLines
      rw [hkey]
      split
      · split
        · exact ih hrest _ _
        · exact ih hrest _ _
      · exact ih hrest _ _

/-- Every key has the same line. -/
theorem ofText_withReturns (text : String) (isKey : String → Bool) :
    LineMap.ofText (withReturns text) isKey = LineMap.ofText text isKey := by
  unfold LineMap.ofText withReturns
  rw [String.toList_ofList]
  obtain ⟨before, last, hplain, hreturns⟩ := splitLines_addReturns text.toList
  apply addLines_congr
  rw [hplain, hreturns, List.map_append, List.map_append, List.map_map]
  congr 1
  exact List.map_congr_left fun line _ => keyOfLine?_append_return line

/-! ## The excerpts -/

/-- An excerpt leaves a carriage return at the end of a line out. -/
theorem shownLine_append_return (line : List Char) :
    shownLine (line ++ ['\r']) = shownLine line := by
  unfold shownLine
  rw [Text.trimEnd_append_of_all _ line ['\r'] (by simp)]

/-- The lines that can be shown are shown as before. -/
theorem map_shownLine_withReturns (text : String) :
    (sourceLines (withReturns text)).map shownLine = (sourceLines text).map shownLine := by
  obtain ⟨before, last, hplain, hreturns⟩ := splitLines_addReturns text.toList
  have hbefore : (before.map (· ++ ['\r'])).map shownLine = before.map shownLine := by
    rw [List.map_map]
    exact List.map_congr_left fun line _ => shownLine_append_return line
  unfold sourceLines withReturns
  rw [String.toList_ofList, hplain, hreturns]
  simp only [List.getLast?_concat, List.dropLast_concat]
  -- The last line is the same in both, so it is dropped in both or in neither.
  split
  · exact hbefore
  · rw [List.map_append, List.map_append, hbefore]

/-- An excerpt depends on the lines only by the way they are shown. -/
theorem excerpt_congr (l : ReportStyle) (line : Int) {source other : List (List Char)}
    (h : source.map shownLine = other.map shownLine) :
    excerpt l line source = excerpt l line other := by
  have hlength : source.length = other.length := by
    simpa using congrArg List.length h
  -- Where the lines of two windows are shown alike, so are the windows with their numbers.
  have hwindow : ∀ (width number : Nat) {ls ms : List (List Char)},
      ls.map shownLine = ms.map shownLine →
      ((ls.zipIdx number).map fun e => excerptLine l width e.2 ((e.2 : Int) == line) e.1)
        = (ms.zipIdx number).map fun e => excerptLine l width e.2 ((e.2 : Int) == line) e.1 := by
    intro width number ls ms hshown
    induction ls generalizing ms number with
    | nil =>
      obtain rfl := List.map_eq_nil_iff.mp hshown.symm
      rfl
    | cons x ls ih =>
      cases ms with
      | nil => cases hshown
      | cons y ms =>
        obtain ⟨hfirst, hrest⟩ := List.cons.inj hshown
        rw [List.zipIdx_cons, List.zipIdx_cons, List.map_cons, List.map_cons, ih _ hrest]
        unfold excerptLine
        rw [hfirst]
  unfold excerpt
  rw [hlength]
  dsimp only
  split
  · rfl
  · congr 1
    apply hwindow
    rw [List.map_take, List.map_take, List.map_drop, List.map_drop, h]

/-- The excerpt around every line is the same. -/
theorem excerpt_withReturns (l : ReportStyle) (line : Int) (text : String) :
    excerpt l line (sourceLines (withReturns text)) = excerpt l line (sourceLines text) :=
  excerpt_congr l line (map_shownLine_withReturns text)

/-! ## All of them -/

/-- Line breaks of the other kind change nothing: a text whose line breaks are line feeds and the
same text with carriage returns before them have the same block, up to its line breaks, the same
lines of keys, and the same excerpts in every style. -/
theorem withReturns_changes_nothing {text : String} (h : '\r' ∉ text.toList) :
    extract? (withReturns text) = (extract? text).map withReturns
      ∧ (∀ isKey, LineMap.ofText (withReturns text) isKey = LineMap.ofText text isKey)
      ∧ ∀ l line, excerpt l line (sourceLines (withReturns text))
        = excerpt l line (sourceLines text) :=
  ⟨extract?_withReturns h, ofText_withReturns text, fun l line => excerpt_withReturns l line text⟩

/-- A document whose block ends with the text, so that its last line has no line break. -/
def openEndedText : String := "---\nid: a\n\nversion: 1\n---"

/-- The block of the sample, its keys and an excerpt, with the other kind of line break. -/
theorem withReturns_openEndedText :
    '\r' ∉ openEndedText.toList
      ∧ extract? (withReturns openEndedText) = some "id: a\r\n\r\nversion: 1"
      ∧ LineMap.ofText (withReturns openEndedText) (· == "version") = [("version", 4)]
      ∧ excerpt ⟨false, 0⟩ 5 (sourceLines (withReturns openEndedText))
        = ["    context:", "        5 > ---"] := by
  have hreturns : '\r' ∉ openEndedText.toList := by decide
  obtain ⟨hblock, hlines, hexcerpt⟩ := withReturns_changes_nothing hreturns
  refine ⟨hreturns, ?_, ?_, ?_⟩
  · rw [hblock]
    rfl
  · rw [hlines]
    rfl
  · rw [hexcerpt]
    decide

end FrontMatter
