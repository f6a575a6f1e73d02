import FrontMatter.Block.Extract

/-!
# `FrontMatter.Proofs.BlockEnd` — the line at which a block ends

The block of a document is cut by a search over characters. Here the cut is told by lines: a text is
a first line and later lines, each with the way it ends, and a block stands between an opening line
and a closing one. The search looks for a closing line from the third line on before it looks at the
second, so it goes past a closing second line whenever another one follows.

## Contents

* `LineEnd`, `EndedLine`, `endedLines`: a text as its lines with their ends.
* `EndedLine.isOpening`, `EndedLine.isClosing`, `bodyText`: the lines around a block, and its text.
* `promisedBlock?`, `cutBlock?`: the block up to the first closing line, and the one that is cut.
* `OverrunsClosing`: where the two differ.
* `extract?_eq_promisedBlock?_iff`: when the block ends at the first closing line.
-/

namespace FrontMatter.Block

/-! ## Lines with their ends -/

/-- How a line ends. -/
inductive LineEnd
  | feed
  | returnFeed
  | textEnd
  deriving Repr, DecidableEq

/-- The characters of a line end. -/
def LineEnd.chars : LineEnd → List Char
  | .feed => ['\n']
  | .returnFeed => ['\r', '\n']
  | .textEnd => []

/-- A line and how it ends. -/
structure EndedLine where
  text : List Char
  ending : LineEnd
  deriving Repr, DecidableEq

/-- A line as it stands in a text. -/
def EndedLine.written (l : EndedLine) : List Char :=
  l.text ++ l.ending.chars

/-- The line with one more character at its start. -/
def EndedLine.extend (c : Char) (l : EndedLine) : EndedLine :=
  { l with text := c :: l.text }

/-- The first line of a text and the later ones. -/
def endedLines : List Char → EndedLine × List EndedLine
  | [] => (⟨[], .textEnd⟩, [])
  | '\n' :: rest =>
    let ls := endedLines rest
    (⟨[], .feed⟩, ls.1 :: ls.2)
  | '\r' :: '\n' :: rest =>
    let ls := endedLines rest
    (⟨[], .returnFeed⟩, ls.1 :: ls.2)
  | c :: rest =>
    let ls := endedLines rest
    (ls.1.extend c, ls.2)

/-- The lines of a text, written one after the other, give the text back. -/
theorem written_endedLines (cs : List Char) :
    (endedLines cs).1.written ++ (endedLines cs).2.flatMap EndedLine.written = cs := by
  fun_induction endedLines cs with
  | case1 => rfl
  | case2 rest ls ih =>
    rw [List.flatMap_cons, ih]
    rfl
  | case3 rest ls ih =>
    rw [List.flatMap_cons, ih]
    rfl
  | case4 c rest h₁ h₂ ls ih =>
    show c :: (ls.1.written ++ ls.2.flatMap EndedLine.written) = c :: rest
    rw [ih]

/-- A text that starts with a line break has an empty first line. -/
theorem endedLines_of_break {cs rest : List Char} (h : afterBreak? cs = some rest) :
    ∃ e : LineEnd, e ≠ .textEnd ∧ cs = e.chars ++ rest
      ∧ endedLines cs = (⟨[], e⟩, (endedLines rest).1 :: (endedLines rest).2) := by
  unfold afterBreak? at h
  split at h
  · obtain rfl := Option.some.inj h
    exact ⟨.feed, by simp, rfl, rfl⟩
  · obtain rfl := Option.some.inj h
    exact ⟨.returnFeed, by simp, rfl, rfl⟩
  · cases h

/-- Any other character belongs to the first line. -/
theorem endedLines_cons_of_no_break {c : Char} {rest : List Char}
    (h : afterBreak? (c :: rest) = none) :
    endedLines (c :: rest) = ((endedLines rest).1.extend c, (endedLines rest).2) := by
  apply endedLines.eq_4
  · rintro rfl
    simp [afterBreak?] at h
  · rintro rest' rfl rfl
    simp [afterBreak?] at h

/-- A character that starts no line break. -/
theorem afterBreak?_eq_none {c : Char} {rest : List Char} (hfeed : c = '\n' → False)
    (hreturn : ∀ rest', c = '\r' → rest = '\n' :: rest' → False) :
    afterBreak? (c :: rest) = none := by
  unfold afterBreak?
  split
  · next heq => exact absurd (List.cons.inj heq).1 hfeed
  · next heq => exact absurd (List.cons.inj heq).2 (hreturn _ (List.cons.inj heq).1)
  · rfl

/-! ## The lines around a block -/

/-- An opening line: three hyphens, and a line break. -/
def EndedLine.isOpening (l : EndedLine) : Bool :=
  l.text == ['-', '-', '-'] && l.ending != .textEnd

/-- A closing line: three hyphens, then spaces and tabs only. -/
def EndedLine.isClosing (l : EndedLine) : Bool :=
  l.text.take 3 == ['-', '-', '-'] && (l.text.drop 3).all isGap

/-- Three hyphens are read off a text that starts with them. -/
theorem afterHyphens?_eq_some_iff {cs rest : List Char} :
    afterHyphens? cs = some rest ↔ cs = '-' :: '-' :: '-' :: rest := by
  unfold afterHyphens?
  split
  · next rest' =>
    constructor
    · intro h
      rw [Option.some.inj h]
    · intro h
      simpa using h
  · next hno =>
    constructor
    · intro h
      cases h
    · intro h
      exact absurd h (hno rest)

/-- The first line of a text stands at its start. -/
theorem text_endedLines_starts (cs : List Char) : (endedLines cs).1.text <+: cs := by
  refine ⟨(endedLines cs).1.ending.chars ++ (endedLines cs).2.flatMap EndedLine.written, ?_⟩
  rw [← List.append_assoc]
  exact written_endedLines cs

/-- Three hyphens at the start of a text are no line break. -/
theorem endedLines_hyphens (rest : List Char) :
    endedLines ('-' :: '-' :: '-' :: rest)
      = ((((endedLines rest).1.extend '-').extend '-').extend '-', (endedLines rest).2) := by
  rw [endedLines_cons_of_no_break rfl, endedLines_cons_of_no_break rfl,
    endedLines_cons_of_no_break rfl]

/-- Whether nothing but gaps is left in the first line. -/
theorem gapsEnd_eq_all (cs : List Char) :
    ((cs.dropWhile isGap).isEmpty || (afterBreak? (cs.dropWhile isGap)).isSome)
      = (endedLines cs).1.text.all isGap := by
  fun_induction endedLines cs with
  | case1 => rfl
  | case2 rest ls ih => rfl
  | case3 rest ls ih => rfl
  | case4 c rest hfeed hreturn ls ih =>
    -- A gap is passed; at any other character the line holds more than gaps.
    show _ = (c :: ls.1.text).all isGap
    by_cases hc : isGap c = true
    · rw [List.dropWhile_cons_of_pos hc, ih, List.all_cons, hc, Bool.true_and]
    · rw [List.dropWhile_cons_of_neg hc, afterBreak?_eq_none hfeed hreturn, List.all_cons]
      simp [hc]

/-- The search for a closing line looks at the first line of what is left. -/
theorem closes_eq_isClosing (cs : List Char) : closes cs = (endedLines cs).1.isClosing := by
  cases h : afterHyphens? cs with
  | some rest =>
    rw [afterHyphens?_eq_some_iff] at h
    subst h
    rw [endedLines_hyphens]
    exact gapsEnd_eq_all rest
  | none =>
    -- A first line with three hyphens at its start would put them at the start of the text.
    have hno : ¬ (endedLines cs).1.text.take 3 = ['-', '-', '-'] := by
      intro htake
      have hcs : cs = (['-', '-', '-'] : List Char) ++ cs.drop 3 := by
        have hpre := (List.take_prefix 3 _).trans (text_endedLines_starts cs)
        rw [htake] at hpre
        obtain ⟨rest, hrest⟩ := hpre
        rw [← hrest]
        rfl
      rw [afterHyphens?_eq_some_iff.mpr hcs] at h
      cases h
    unfold closes EndedLine.isClosing
    rw [h, beq_eq_false_iff_ne.mpr hno, Bool.false_and]

/-! ## The text of a block -/

/-- The text of some lines without the end of the last one. -/
def bodyText : List EndedLine → List Char
  | [] => []
  | [l] => l.text
  | l :: ls => l.written ++ bodyText ls

/-- One more character at the start of the first line. -/
theorem bodyText_extend (c : Char) (l : EndedLine) (ls : List EndedLine) :
    bodyText (l.extend c :: ls) = c :: bodyText (l :: ls) := by
  cases ls with
  | nil => rfl
  | cons m ls => rfl

/-- The text of some lines up to the first closing one among those after the first. -/
def bodyOf? (l : EndedLine) (ls : List EndedLine) : Option (List Char) :=
  if ls.any EndedLine.isClosing then some (bodyText (l :: ls.takeWhile fun m => !m.isClosing))
  else none

/-- A closing line ends the body before it. -/
theorem bodyOf?_of_isClosing {l m : EndedLine} (ms : List EndedLine) (hm : m.isClosing = true) :
    bodyOf? l (m :: ms) = some l.text := by
  simp [bodyOf?, hm, bodyText]

/-- Any other line belongs to the body. -/
theorem bodyOf?_of_not_isClosing {l m : EndedLine} (ms : List EndedLine)
    (hm : m.isClosing = false) :
    bodyOf? l (m :: ms) = (bodyOf? m ms).map (l.written ++ ·) := by
  by_cases hany : ms.any EndedLine.isClosing = true
  · simp [bodyOf?, hm, hany, bodyText]
  · simp [bodyOf?, hm, hany]

/-- One more character at the start of the first line is one more at the start of the body. -/
theorem bodyOf?_extend (c : Char) (l : EndedLine) (ls : List EndedLine) :
    bodyOf? (l.extend c) ls = (bodyOf? l ls).map (c :: ·) := by
  unfold bodyOf?
  rw [bodyText_extend]
  split <;> rfl

/-- The search for the end of a body, told by lines: it stops before the first line after the
current one that closes. -/
theorem bodyBefore?_eq (done cs : List Char) :
    bodyBefore? done cs
      = (bodyOf? (endedLines cs).1 (endedLines cs).2).map (done.reverse ++ ·) := by
  -- By induction on the lines that are left, with the characters passed so far in front.
  fun_induction endedLines cs generalizing done with
  | case1 => rfl
  | case2 rest ls ih =>
    -- At a line end the search looks whether the next line closes.
    have hends : endsBody ('\n' :: rest) = ls.1.isClosing := closes_eq_isClosing rest
    unfold bodyBefore?
    rw [hends]
    cases hls : ls.1.isClosing with
    | true =>
      rw [if_pos rfl, bodyOf?_of_isClosing _ hls]
      simp
    | false =>
      rw [if_neg (by simp), ih, bodyOf?_of_not_isClosing _ hls]
      simp [Function.comp_def, EndedLine.written, LineEnd.chars, ls]
  | case3 rest ls ih =>
    have hends : endsBody ('\r' :: '\n' :: rest) = ls.1.isClosing := closes_eq_isClosing rest
    have hfeed : endsBody ('\n' :: rest) = ls.1.isClosing := closes_eq_isClosing rest
    unfold bodyBefore?
    rw [hends]
    cases hls : ls.1.isClosing with
    | true =>
      rw [if_pos rfl, bodyOf?_of_isClosing _ hls]
      simp
    | false =>
      -- The line feed of the pair is looked at once more, with the same lines after it.
      unfold bodyBefore?
      rw [if_neg (by simp), hfeed, hls, if_neg (by simp), ih, bodyOf?_of_not_isClosing _ hls]
      simp [Function.comp_def, EndedLine.written, LineEnd.chars, ls]
  | case4 c rest hfeed hreturn ls ih =>
    -- Inside a line nothing can end the body.
    have hends : endsBody (c :: rest) = false := by
      unfold endsBody
      rw [afterBreak?_eq_none hfeed hreturn]
    unfold bodyBefore?
    rw [hends, if_neg (by simp), ih, bodyOf?_extend]
    simp [Function.comp_def, ls]

/-! ## The block of a document -/

/-- The block as it is promised: after an opening line, the text before the first closing line. -/
def promisedBlock? (content : List Char) : Option (List Char) :=
  let ls := endedLines content
  if ls.1.isOpening && ls.2.any EndedLine.isClosing then
    some (bodyText (ls.2.takeWhile fun l => !l.isClosing))
  else none

/-- The block after an opening line as it is cut: a closing line is looked for from the third line
on, and only then at the second. -/
def cutAfterOpening? : List EndedLine → Option (List Char)
  | [] => none
  | second :: ls => bodyOf? second ls <|> if second.isClosing then some [] else none

/-- The block as it is cut. -/
def cutBlock? (content : List Char) : Option (List Char) :=
  let ls := endedLines content
  if ls.1.isOpening then cutAfterOpening? ls.2 else none

/-- A document whose second line closes an empty block and which has a further closing line. -/
def OverrunsClosing (content : List Char) : Prop :=
  (endedLines content).1.isOpening = true ∧
    ∃ second ls, (endedLines content).2 = second :: ls ∧ second.isClosing = true
      ∧ ls.any EndedLine.isClosing = true

/-- What follows three hyphens and a line break are the lines after an opening line. -/
theorem endedLines_of_afterOpening {cs rest : List Char}
    (h : (afterHyphens? cs).bind afterBreak? = some rest) :
    (endedLines cs).1.isOpening = true
      ∧ (endedLines cs).2 = (endedLines rest).1 :: (endedLines rest).2 := by
  obtain ⟨cs', hhyphens, hbreak⟩ := Option.bind_eq_some_iff.mp h
  obtain ⟨e, he, -, hlines⟩ := endedLines_of_break hbreak
  rw [afterHyphens?_eq_some_iff.mp hhyphens, endedLines_hyphens, hlines]
  refine ⟨?_, rfl⟩
  simp [EndedLine.isOpening, EndedLine.extend, he]

/-- Without them the first line is no opening line. -/
theorem isOpening_of_no_afterOpening {cs : List Char}
    (h : (afterHyphens? cs).bind afterBreak? = none) : (endedLines cs).1.isOpening = false := by
  rw [← Bool.not_eq_true]
  intro hopening
  rw [EndedLine.isOpening, Bool.and_eq_true, beq_iff_eq, bne_iff_ne] at hopening
  obtain ⟨htext, hending⟩ := hopening
  -- The text is three hyphens and a line end, which the cut would have read off.
  have hcs := written_endedLines cs
  rw [EndedLine.written, htext, List.append_assoc] at hcs
  rw [← hcs] at h
  cases hend : (endedLines cs).1.ending with
  | feed => simp [hend, LineEnd.chars, afterHyphens?, afterBreak?] at h
  | returnFeed => simp [hend, LineEnd.chars, afterHyphens?, afterBreak?] at h
  | textEnd => exact hending hend

/-- The block of a document, told by lines. -/
theorem extract?_eq_cutBlock? (content : String) :
    extract? content = (cutBlock? content.toList).map String.ofList := by
  unfold extract? cutBlock?
  cases h : (afterHyphens? content.toList).bind afterBreak? with
  | none =>
    simp [isOpening_of_no_afterOpening h]
  | some rest =>
    obtain ⟨hopening, hlater⟩ := endedLines_of_afterOpening h
    simp only [hopening, hlater, if_true, cutAfterOpening?]
    rw [bodyBefore?_eq, closes_eq_isClosing]
    cases hbody : bodyOf? (endedLines rest).1 (endedLines rest).2 with
    | some body => rfl
    | none =>
      cases (endedLines rest).1.isClosing <;> rfl

/-- A closing line has text. -/
theorem bodyText_ne_nil_of_isClosing {l : EndedLine} (ls : List EndedLine)
    (h : l.isClosing = true) : bodyText (l :: ls) ≠ [] := by
  have htext : l.text ≠ [] := by
    intro hnil
    simp [EndedLine.isClosing, hnil] at h
  cases ls with
  | nil => exact htext
  | cons m ls => simp [bodyText, EndedLine.written, htext]

/-- After an opening line the two blocks are the same unless the second line closes and a further
line does. -/
theorem cutAfterOpening?_eq_iff (second : EndedLine) (ls : List EndedLine) :
    cutAfterOpening? (second :: ls)
        = (if (second :: ls).any EndedLine.isClosing then
            some (bodyText ((second :: ls).takeWhile fun l => !l.isClosing)) else none)
      ↔ ¬ (second.isClosing = true ∧ ls.any EndedLine.isClosing = true) := by
  cases hsecond : second.isClosing with
  | false => simp [cutAfterOpening?, bodyOf?, hsecond]
  | true =>
    by_cases hls : ls.any EndedLine.isClosing = true
    · -- The body that is cut starts with the second line, so it is not the empty one.
      simp [cutAfterOpening?, bodyOf?, hsecond, hls, bodyText_ne_nil_of_isClosing _ hsecond,
        bodyText]
    · simp [cutAfterOpening?, bodyOf?, hsecond, hls, bodyText]

/-- The block that is cut is the promised one exactly where no empty block is overrun. -/
theorem cutBlock?_eq_promisedBlock?_iff (content : List Char) :
    cutBlock? content = promisedBlock? content ↔ ¬ OverrunsClosing content := by
  unfold cutBlock? promisedBlock? OverrunsClosing
  generalize endedLines content = ls
  obtain ⟨first, later⟩ := ls
  dsimp only
  cases hopening : first.isOpening with
  | false => simp
  | true =>
    rw [if_pos rfl, Bool.true_and]
    cases later with
    | nil => simp [cutAfterOpening?]
    | cons second ls =>
      rw [cutAfterOpening?_eq_iff]
      simp

/-- **The block ends at the first closing line, unless an empty block is overrun.** The block is cut
by the search for a closing line from the third line on, and this is the promised block exactly for
the documents without a closing second line that another closing line follows. -/
theorem extract?_eq_promisedBlock?_iff (content : String) :
    extract? content = (cutBlock? content.toList).map String.ofList
      ∧ (extract? content = (promisedBlock? content.toList).map String.ofList
          ↔ ¬ OverrunsClosing content.toList) := by
  have hinj : Function.Injective (Option.map String.ofList) :=
    Option.map_injective fun _ _ h => String.ofList_injective h
  refine ⟨extract?_eq_cutBlock? content, ?_⟩
  rw [extract?_eq_cutBlock?, hinj.eq_iff]
  exact cutBlock?_eq_promisedBlock?_iff content.toList

/-- An empty block is overrun up to the rule below it. -/
theorem extract?_overruns_empty_block :
    extract? "---\n---\nid: a\n---\n" = some "---\nid: a"
      ∧ promisedBlock? "---\n---\nid: a\n---\n".toList = some [] := by
  constructor <;> rfl

end FrontMatter.Block
