import FrontMatter.Yaml.Cursor

/-!
# `FrontMatter.Proofs.CursorRuns` — moving over printable text

A printable character of ASCII takes one column and ends no line. So a cursor that moves over a run
of them stands that many columns further on in the same line.

## Contents

* `IsPrintable`: the characters from the space to the tilde.
* `Mark.along`: the place further on in the line.
* `spanFrom_append`, `span_append`: the longest run of a class is the one that is written.
* `skip_append`, `skipWhile_append`: moving over it.
* `takeBreak_of_isPrintable`, `takeBreak_lineFeed`: line breaks.
-/

namespace FrontMatter.Yaml

/-! ## Printable characters -/

/-- A character from the space to the tilde. -/
def IsPrintable (c : Char) : Prop :=
  0x20 ≤ c.toNat ∧ c.toNat ≤ 0x7E

instance (c : Char) : Decidable (IsPrintable c) :=
  inferInstanceAs (Decidable (0x20 ≤ c.toNat ∧ c.toNat ≤ 0x7E))

/-- Whether all characters of a text are printable is decided along the text. -/
instance (cs : List Char) : Decidable (∀ c ∈ cs, IsPrintable c) :=
  List.decidableBAll IsPrintable cs

/-- A printable character is none that is not printable. -/
theorem IsPrintable.ne {c d : Char} (h : IsPrintable c) (hd : ¬ IsPrintable d) : c ≠ d := by
  rintro rfl
  exact hd h

/-- The characters that end lines or texts, or that take no column, are not printable. -/
theorem IsPrintable.ne_breaks {c : Char} (h : IsPrintable c) :
    (c ≠ '\n' ∧ c ≠ '\r' ∧ c ≠ '\u0085' ∧ c ≠ '\u2028' ∧ c ≠ '\u2029')
      ∧ c ≠ '\x00' ∧ c ≠ '\t' ∧ c ≠ '\uFEFF' :=
  ⟨⟨h.ne (by decide), h.ne (by decide), h.ne (by decide), h.ne (by decide), h.ne (by decide)⟩,
    h.ne (by decide), h.ne (by decide), h.ne (by decide)⟩

/-- A printable character is no line break and not the end of the text. -/
theorem IsPrintable.not_isEnd {c : Char} (h : IsPrintable c) : isEnd c = false := by
  simp [isEnd, isBreak, endMark, h.ne_breaks]

/-- A printable character but the space does not end a word. -/
theorem IsPrintable.not_isStop {c : Char} (h : IsPrintable c) (hspace : c ≠ ' ') :
    isStop c = false := by
  simp [isStop, h.not_isEnd, h.ne_breaks, hspace]

/-- The place `n` columns further on in the line. -/
def Mark.along (m : Mark) (n : Nat) : Mark :=
  ⟨m.index + n, m.line, m.column + n⟩

/-- Moving on twice is moving on by the sum. -/
theorem Mark.along_along (m : Mark) (j k : Nat) : (m.along j).along k = m.along (j + k) := by
  simp [Mark.along, Nat.add_assoc]

/-- A printable character takes one column. -/
theorem Mark.past_of_isPrintable (m : Mark) {c : Char} (h : IsPrintable c) (rest : List Char) :
    m.past c rest = m.along 1 := by
  unfold Mark.past Mark.along
  simp [h.ne_breaks]

namespace Cursor

/-! ## Runs -/

/-- A text is a run of a class and a rest that does not go on with it. -/
theorem exists_run (p : Char → Bool) (cs : List Char) :
    ∃ run rest, cs = run ++ rest ∧ (∀ c ∈ run, p c = true)
      ∧ ∀ x, rest.head? = some x → p x = false := by
  induction cs with
  | nil => exact ⟨[], [], rfl, by simp, by simp⟩
  | cons c cs ih =>
    cases hc : p c with
    | false =>
      refine ⟨[], c :: cs, rfl, by simp, ?_⟩
      rintro x ⟨⟩
      exact hc
    | true =>
      obtain ⟨run, rest, rfl, hrun, hend⟩ := ih
      refine ⟨c :: run, rest, rfl, ?_, hend⟩
      rintro d (_ | ⟨_, hd⟩)
      · exact hc
      · exact hrun d hd

/-- A text does not go on with a run of a class, which sees a character and its successor. -/
def EndsRun (p : Char → Char → Bool) (rest : List Char) : Prop :=
  ∀ x more, rest = x :: more → p x (more.headD endMark) = false

/-- The longest run of a class is a run of printable characters of the class that does not go on. -/
theorem spanFrom_append {p : Char → Char → Bool} {cs rest : List Char}
    (hprintable : ∀ c ∈ cs, IsPrintable c) (hrun : ∀ c ∈ cs, ∀ next, p c next = true)
    (hend : EndsRun p rest) (done : List Char) (m : Mark) :
    spanFrom p done (cs ++ rest) m = (cs.reverse ++ done, ⟨rest, m.along cs.length⟩) := by
  induction cs generalizing done m with
  | nil =>
    cases rest with
    | nil => rfl
    | cons x more =>
      rw [List.nil_append, spanFrom, hend x more rfl]
      rfl
  | cons c cs ih =>
    have hc := hprintable c List.mem_cons_self
    rw [List.cons_append, spanFrom, hrun c List.mem_cons_self, if_pos rfl,
      m.past_of_isPrintable hc, ih (fun d hd => hprintable d (List.mem_cons_of_mem c hd))
        fun d hd => hrun d (List.mem_cons_of_mem c hd)]
    simp [Mark.along_along, Nat.add_comm]

/-- The longest run of a class that sees successors. -/
theorem span₂_append {p : Char → Char → Bool} {cs rest : List Char}
    (hprintable : ∀ c ∈ cs, IsPrintable c) (hrun : ∀ c ∈ cs, ∀ next, p c next = true)
    (hend : EndsRun p rest) (m : Mark) :
    span₂ p ⟨cs ++ rest, m⟩ = (cs, ⟨rest, m.along cs.length⟩) := by
  unfold span₂
  rw [spanFrom_append hprintable hrun hend]
  simp

section Span

variable {p : Char → Bool} {cs rest : List Char} (hprintable : ∀ c ∈ cs, IsPrintable c)
  (hrun : ∀ c ∈ cs, p c = true) (hend : ∀ x, rest.head? = some x → p x = false) (m : Mark)

include hprintable hrun hend

/-- The longest run of a class. -/
theorem span_append : span p ⟨cs ++ rest, m⟩ = (cs, ⟨rest, m.along cs.length⟩) := by
  refine span₂_append hprintable (fun c hc _ => hrun c hc) ?_ m
  rintro x more rfl
  exact hend x rfl

/-- Moving over the longest run of a class. -/
theorem skipWhile_append : skipWhile p ⟨cs ++ rest, m⟩ = ⟨rest, m.along cs.length⟩ := by
  unfold skipWhile
  rw [span_append hprintable hrun hend]

end Span

/-- Where the run of a class is over, nothing is moved over. -/
theorem skipWhile_of_end {p : Char → Bool} {rest : List Char}
    (hend : ∀ x, rest.head? = some x → p x = false) (m : Mark) :
    skipWhile p ⟨rest, m⟩ = ⟨rest, m⟩ :=
  @skipWhile_append p [] rest (by simp) (by simp) hend m

/-- Moving over a number of printable characters. -/
theorem skip_append {cs : List Char} (h : ∀ c ∈ cs, IsPrintable c) (rest : List Char) (m : Mark) :
    skip cs.length ⟨cs ++ rest, m⟩ = ⟨rest, m.along cs.length⟩ := by
  induction cs generalizing m with
  | nil => rfl
  | cons c cs ih =>
    have hc := h c List.mem_cons_self
    rw [List.length_cons, List.cons_append, skip]
    unfold advance
    dsimp only
    rw [m.past_of_isPrintable hc, ih fun d hd => h d (List.mem_cons_of_mem c hd),
      Mark.along_along, Nat.add_comm]

/-- Moving over one printable character. -/
theorem advance_cons {c : Char} (h : IsPrintable c) (rest : List Char) (m : Mark) :
    advance ⟨c :: rest, m⟩ = ⟨rest, m.along 1⟩ := by
  unfold advance
  dsimp only
  rw [m.past_of_isPrintable h]

/-! ## Line breaks -/

/-- No line break is next before a printable character. -/
theorem takeBreak_of_isPrintable {c : Char} (h : IsPrintable c) (rest : List Char) (m : Mark) :
    takeBreak ⟨c :: rest, m⟩ = none := by
  simp [takeBreak, peek, h.ne_breaks]

/-- No line break is next at the end. -/
theorem takeBreak_nil (m : Mark) : takeBreak ⟨[], m⟩ = none := by
  simp [takeBreak, peek, endMark]

/-- A line feed is a line break, and the next line starts after it. -/
theorem takeBreak_lineFeed (rest : List Char) (m : Mark) :
    takeBreak ⟨'\n' :: rest, m⟩ = some ('\n', ⟨rest, m.index + 1, m.line + 1, 0⟩) := by
  simp [takeBreak, peek, advance, Mark.past]

end Cursor

end FrontMatter.Yaml
