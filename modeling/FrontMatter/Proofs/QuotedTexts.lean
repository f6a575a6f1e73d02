import FrontMatter.Proofs.CursorRuns
import FrontMatter.Yaml.Token.Quoted
import Mathlib.Data.List.Basic

/-!
# `FrontMatter.Proofs.QuotedTexts` — a printable text is read back from single quotes

A text is written between single quotes with every quote in it doubled. What is read between the
quotes is the text again, whatever printable characters it has: the reader goes over runs of
ordinary characters and of spaces, and over doubled quotes and the other special characters one by
one.

## Contents

* `doubled`: a text with every quote doubled, with the characters of the text (`mem_doubled_iff`).
* `scanQuotedFrom_ordinary`, `scanQuotedFrom_quote`, `scanQuotedFrom_mark`,
  `scanQuotedFrom_spaces`, `scanQuotedFrom_close`: what is read at once.
* `exists_scanQuotedFrom_special`: one step, whatever is next.
* `scanQuotedFrom_doubled`, `scanQuoted_doubled`: the whole text, by induction on its length.
-/

namespace FrontMatter.Yaml

open Cursor

/-! ## Doubled quotes -/

/-- A text with every single quote doubled. -/
def doubled (cs : List Char) : List Char :=
  cs.flatMap fun c => if c == '\'' then ['\'', '\''] else [c]

/-- The parts of a text are written one after the other. -/
theorem doubled_append (cs ds : List Char) : doubled (cs ++ ds) = doubled cs ++ doubled ds :=
  List.flatMap_append

/-- A text without quotes is written as it is. -/
theorem doubled_of_not_mem {cs : List Char} (h : '\'' ∉ cs) : doubled cs = cs := by
  induction cs with
  | nil => rfl
  | cons c cs ih =>
    rw [List.mem_cons, not_or] at h
    have hc : ¬ (c == '\'') = true := by simpa using Ne.symm h.1
    show (if c == '\'' then _ else _) ++ doubled cs = _
    rw [if_neg hc, ih h.2]
    rfl

/-- A character that is no quote is written first. -/
theorem doubled_cons {c : Char} (h : c ≠ '\'') (cs : List Char) :
    doubled (c :: cs) = c :: doubled cs := by
  have hc : '\'' ∉ [c] := by simpa using Ne.symm h
  have happend := doubled_append [c] cs
  rwa [doubled_of_not_mem hc] at happend

/-- A quote is written as two. -/
theorem doubled_quote (cs : List Char) : doubled ('\'' :: cs) = '\'' :: '\'' :: doubled cs :=
  rfl

/-- Doubling quotes makes no text shorter. -/
theorem length_le_doubled (cs : List Char) : cs.length ≤ (doubled cs).length := by
  induction cs with
  | nil => exact Nat.le_refl 0
  | cons c cs ih =>
    by_cases hc : c = '\''
    · rw [hc, doubled_quote]
      simp only [List.length_cons]
      omega
    · rw [doubled_cons hc]
      exact Nat.succ_le_succ ih

/-- Doubling quotes brings no other characters. -/
theorem mem_doubled_iff {cs : List Char} {c : Char} : c ∈ doubled cs ↔ c ∈ cs := by
  have hone : ∀ d, c ∈ (if d == '\'' then ['\'', '\''] else [d]) ↔ c = d := by
    intro d
    by_cases hd : d = '\''
    · simp [hd]
    · simp [hd]
  unfold doubled
  rw [List.mem_flatMap]
  simp only [hone]
  exact ⟨fun ⟨d, hd, hcd⟩ => hcd ▸ hd, fun h => ⟨c, h, rfl⟩⟩

/-- What is written of a printable text and the quote after it starts with a printable character:
with the first one of the text, or with the quote. -/
theorem exists_head_doubled (cs rest : List Char) :
    ∃ more, doubled cs ++ '\'' :: rest = cs.headD '\'' :: more := by
  cases cs with
  | nil => exact ⟨rest, rfl⟩
  | cons c cs =>
    by_cases hc : c = '\''
    · subst hc
      exact ⟨_, by rw [doubled_quote]; rfl⟩
    · exact ⟨_, by rw [doubled_cons hc]; rfl⟩

/-! ## Reading -/

/-- Of the printable characters only the space and the marks of quoted texts are not ordinary. -/
theorem eq_of_not_isOrdinary {c : Char} (hc : IsPrintable c) (h : isOrdinary c = false) :
    c = ' ' ∨ c = '\'' ∨ c = '"' ∨ c = '\\' := by
  by_cases hspace : c = ' '
  · exact .inl hspace
  · simp [isOrdinary, hc.not_isStop hspace] at h
    tauto

/-- A run of spaces in quotes before a printable character stays as it is. -/
theorem scanFold_spaces {spaces : List Char} (hspaces : ∀ c ∈ spaces, c = ' ') {c : Char}
    (hc : IsPrintable c) (hend : c ≠ ' ') (rest : List Char) (m : Mark) :
    scanFold ⟨spaces ++ c :: rest, m⟩ = .ok (spaces, ⟨c :: rest, m.along spaces.length⟩) := by
  have hspan : span isSpaceOrTab ⟨spaces ++ c :: rest, m⟩
      = (spaces, ⟨c :: rest, m.along spaces.length⟩) := by
    apply span_append
    · intro d hd
      rw [hspaces d hd]
      decide
    · intro d hd
      rw [hspaces d hd]
      decide
    · rintro x ⟨⟩
      simp [isSpaceOrTab, hend, hc.ne_breaks]
  unfold scanFold
  rw [hspan]
  dsimp only
  rw [takeBreak_of_isPrintable hc]
  rfl

/-! ## One step -/

section Steps

variable {steps done rest : List Char} {m : Mark} {step : Char}

/-- Where no ordinary character is next, the run of them is empty. -/
theorem span_isOrdinary_of_end {c : Char} (h : isOrdinary c = false) :
    span isOrdinary ⟨c :: rest, m⟩ = ([], ⟨c :: rest, m⟩) := by
  refine @span_append isOrdinary [] (c :: rest) (by simp) (by simp) ?_ m
  rintro x ⟨⟩
  exact h

/-- Ordinary characters are read at once. -/
theorem scanQuotedFrom_ordinary {run : List Char} (hprintable : ∀ c ∈ run, IsPrintable c)
    (hrun : ∀ c ∈ run, isOrdinary c = true) {c : Char} (hend : isOrdinary c = false) :
    scanQuotedFrom false (step :: steps) done ⟨run ++ c :: rest, m⟩
      = scanQuotedFrom false (step :: steps) (run.reverse ++ done)
        ⟨c :: rest, m.along run.length⟩ := by
  have hspan : span isOrdinary ⟨run ++ c :: rest, m⟩ = (run, ⟨c :: rest, m.along run.length⟩) := by
    refine span_append hprintable hrun ?_ m
    rintro x ⟨⟩
    exact hend
  unfold scanQuotedFrom
  rw [hspan, span_isOrdinary_of_end hend]
  rfl

/-- A quote that is not doubled ends the text. -/
theorem scanQuotedFrom_close (h : rest.head? ≠ some '\'') :
    scanQuotedFrom false (step :: steps) done ⟨'\'' :: rest, m⟩
      = .ok (done.reverse, ⟨rest, m.along 1⟩) := by
  have hnext : peekAt ⟨'\'' :: rest, m⟩ 1 ≠ '\'' := by
    cases rest with
    | nil => simp [peekAt, endMark]
    | cons c rest => simpa [peekAt] using h
  unfold scanQuotedFrom
  rw [span_isOrdinary_of_end (by decide)]
  simp [peek, hnext, advance_cons (show IsPrintable '\'' by decide)]
  rfl

/-- A doubled quote is read as one. -/
theorem scanQuotedFrom_quote :
    scanQuotedFrom false (step :: steps) done ⟨'\'' :: '\'' :: rest, m⟩
      = scanQuotedFrom false steps ('\'' :: done) ⟨rest, m.along 2⟩ := by
  have hskip : skip 2 ⟨'\'' :: '\'' :: rest, m⟩ = ⟨rest, m.along 2⟩ :=
    @skip_append ['\'', '\''] (by decide) rest m
  rw [scanQuotedFrom, span_isOrdinary_of_end (by decide)]
  simp [peek, peekAt, hskip]

/-- A mark of the other texts in quotes stands for itself. -/
theorem scanQuotedFrom_mark {c : Char} (hc : c = '"' ∨ c = '\\') :
    scanQuotedFrom false (step :: steps) done ⟨c :: rest, m⟩
      = scanQuotedFrom false steps (c :: done) ⟨rest, m.along 1⟩ := by
  have hprintable : IsPrintable c := by rcases hc with rfl | rfl <;> decide
  have hspecial : isOrdinary c = false := by rcases hc with rfl | rfl <;> decide
  have hquote : c ≠ '\'' := by rcases hc with rfl | rfl <;> decide
  rw [scanQuotedFrom, span_isOrdinary_of_end hspecial]
  rcases hc with rfl | rfl <;> simp [peek, advance_cons hprintable]

/-- A run of spaces is read at once. -/
theorem scanQuotedFrom_spaces {spaces : List Char} (hspaces : ∀ c ∈ spaces, c = ' ')
    (hne : spaces ≠ []) {c : Char} (hc : IsPrintable c) (hend : c ≠ ' ') :
    scanQuotedFrom false (step :: steps) done ⟨spaces ++ c :: rest, m⟩
      = scanQuotedFrom false steps (spaces.reverse ++ done)
        ⟨c :: rest, m.along spaces.length⟩ := by
  have hfold := scanFold_spaces hspaces hc hend rest m
  obtain ⟨d, more, rfl⟩ := List.exists_cons_of_ne_nil hne
  obtain rfl : d = ' ' := hspaces d List.mem_cons_self
  rw [List.cons_append] at hfold ⊢
  rw [scanQuotedFrom, span_isOrdinary_of_end (by decide)]
  simp only [peek, List.headD_cons, hfold]
  rfl

end Steps

/-! ## The text -/

/-- A text, a closing quote and the rest, as they are written. -/
def quotedRest (cs rest : List Char) : List Char :=
  doubled cs ++ '\'' :: rest

/-- The cursor after a text and its closing quote. -/
def afterQuoted (cs rest : List Char) (m : Mark) : Cursor :=
  ⟨rest, m.along ((doubled cs).length + 1)⟩

/-- Characters that are written as they are stand before what is written after them. -/
theorem quotedRest_append {cs : List Char} (h : '\'' ∉ cs) (ds rest : List Char) :
    quotedRest (cs ++ ds) rest = cs ++ quotedRest ds rest := by
  unfold quotedRest
  rw [doubled_append, doubled_of_not_mem h, List.append_assoc]

/-- After them and what is written after them the cursor is the same as after both. -/
theorem afterQuoted_append {cs : List Char} (h : '\'' ∉ cs) (ds rest : List Char) (m : Mark) :
    afterQuoted ds rest (m.along cs.length) = afterQuoted (cs ++ ds) rest m := by
  unfold afterQuoted
  rw [doubled_append, doubled_of_not_mem h, Mark.along_along, List.length_append, Nat.add_assoc]

/-- A quote is written as two, and moves the cursor by two columns. -/
theorem afterQuoted_quote (cs rest : List Char) (m : Mark) :
    afterQuoted cs rest (m.along 2) = afterQuoted ('\'' :: cs) rest m := by
  unfold afterQuoted
  rw [doubled_quote, Mark.along_along, List.length_cons, List.length_cons]
  congr 2
  omega

/-- A text that does not start with an ordinary character is read by a part that is written first:
a run of spaces, a quote, or a mark of the other texts in quotes. -/
theorem exists_scanQuotedFrom_special {x : Char} {ds : List Char}
    (hprintable : ∀ c ∈ x :: ds, IsPrintable c) (hx : isOrdinary x = false) (step : Char)
    (steps done rest : List Char) (m : Mark) :
    ∃ part more m', x :: ds = part ++ more ∧ part ≠ [] ∧
      scanQuotedFrom false (step :: steps) done ⟨quotedRest (x :: ds) rest, m⟩
        = scanQuotedFrom false steps (part.reverse ++ done) ⟨quotedRest more rest, m'⟩ ∧
      afterQuoted more rest m' = afterQuoted (x :: ds) rest m := by
  rcases eq_of_not_isOrdinary (hprintable x List.mem_cons_self) hx with rfl | rfl | hmark
  · obtain ⟨spaces, more, rfl, hspaces, hnext⟩ := exists_run (· == ' ') ds
    have hall : ∀ c ∈ ' ' :: spaces, c = ' ' := by
      rintro c (_ | ⟨_, hc⟩)
      · rfl
      · exact beq_iff_eq.mp (hspaces c hc)
    have hplain : '\'' ∉ ' ' :: spaces := fun hmem => absurd (hall _ hmem) (by decide)
    have hc : IsPrintable (more.headD '\'') ∧ more.headD '\'' ≠ ' ' := by
      cases more with
      | nil => decide
      | cons c more =>
        have hmem : c ∈ ' ' :: (spaces ++ c :: more) := by simp
        exact ⟨hprintable c hmem, by simpa using hnext c rfl⟩
    obtain ⟨after, hafter⟩ := exists_head_doubled more rest
    have hsplit : ' ' :: (spaces ++ more) = (' ' :: spaces) ++ more := rfl
    refine ⟨' ' :: spaces, more, m.along (' ' :: spaces).length, hsplit, List.cons_ne_nil _ _, ?_,
      afterQuoted_append hplain more rest m⟩
    rw [hsplit, quotedRest_append hplain, quotedRest, hafter,
      scanQuotedFrom_spaces hall (List.cons_ne_nil _ _) hc.1 hc.2]
  · exact ⟨['\''], ds, m.along 2, rfl, List.cons_ne_nil _ _, scanQuotedFrom_quote,
      afterQuoted_quote ds rest m⟩
  · have hplain : '\'' ∉ [x] := by rcases hmark with rfl | rfl <;> decide
    have hwritten : quotedRest (x :: ds) rest = x :: quotedRest ds rest :=
      quotedRest_append hplain ds rest
    refine ⟨[x], ds, m.along 1, rfl, List.cons_ne_nil _ _, ?_, afterQuoted_append hplain ds rest m⟩
    rw [hwritten, scanQuotedFrom_mark hmark]
    rfl

/-- The text before a closing quote is read as it was written. -/
theorem scanQuotedFrom_doubled {cs : List Char} (hprintable : ∀ c ∈ cs, IsPrintable c)
    {rest : List Char} (hrest : rest.head? ≠ some '\'') {steps : List Char}
    (hsteps : cs.length < steps.length) (done : List Char) (m : Mark) :
    scanQuotedFrom false steps done ⟨quotedRest cs rest, m⟩
      = .ok (done.reverse ++ cs, afterQuoted cs rest m) := by
  -- By induction on the length of the text: a step reads a run and what ends it.
  induction hlength : cs.length using Nat.strongRecOn generalizing cs steps done m with
  | ind n ih =>
    obtain ⟨step, steps, rfl⟩ := List.exists_cons_of_length_pos (Nat.zero_lt_of_lt hsteps)
    obtain ⟨run, tail, rfl, hrun, hend⟩ := exists_run isOrdinary cs
    have hquote : '\'' ∉ run := fun hmem => absurd (hrun _ hmem) (by decide)
    obtain ⟨after, hafter⟩ := exists_head_doubled tail rest
    have hspecial : isOrdinary (tail.headD '\'') = false := by
      cases tail with
      | nil => decide
      | cons x ds => exact hend x rfl
    rw [quotedRest_append hquote, ← afterQuoted_append hquote, quotedRest, hafter,
      scanQuotedFrom_ordinary (fun c hc => hprintable c (List.mem_append_left _ hc)) hrun hspecial,
      ← hafter, ← quotedRest]
    cases tail with
    | nil =>
      unfold quotedRest afterQuoted
      rw [doubled_of_not_mem (List.not_mem_nil), List.nil_append, scanQuotedFrom_close hrest]
      simp
    | cons x ds =>
      have htail : ∀ c ∈ x :: ds, IsPrintable c :=
        fun c hc => hprintable c (List.mem_append_right _ hc)
      obtain ⟨part, more, m', hsplit, hne, hscan, hmore⟩ := exists_scanQuotedFrom_special htail
        (hend x rfl) step steps (run.reverse ++ done) rest (m.along run.length)
      have hless : more.length < (run ++ x :: ds).length := by
        have hpart := List.length_pos_iff.mpr hne
        rw [hsplit, List.length_append, List.length_append]
        omega
      have hprintableMore : ∀ c ∈ more, IsPrintable c :=
        fun c hc => htail c (hsplit ▸ List.mem_append_right part hc)
      rw [List.length_cons] at hsteps
      rw [hscan, ih more.length (hlength ▸ hless) hprintableMore (by omega) _ m' rfl, hmore, hsplit]
      simp

/-- A printable text between single quotes is read as it was written. -/
theorem scanQuoted_doubled {cs : List Char} (hprintable : ∀ c ∈ cs, IsPrintable c)
    {rest : List Char} (hrest : rest.head? ≠ some '\'') (m : Mark) :
    scanQuoted false ⟨'\'' :: quotedRest cs rest, m⟩
      = .ok (String.ofList cs, afterQuoted cs rest (m.along 1)) := by
  have hsteps : cs.length < (steps ⟨'\'' :: quotedRest cs rest, m⟩).length := by
    have hlength := length_le_doubled cs
    simp only [steps, quotedRest, List.length_cons, List.length_append]
    omega
  unfold scanQuoted
  rw [advance_cons (by decide), scanQuotedFrom_doubled hprintable hrest hsteps]
  rfl

end FrontMatter.Yaml
