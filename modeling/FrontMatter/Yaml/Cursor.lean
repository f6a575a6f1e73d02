/-!
# `FrontMatter.Yaml.Cursor` — places in a text

A mark is a place in the text, as people count: lines and columns. A cursor is a mark together with
the characters that follow it. Cursors move by single characters only, so the mark of every cursor
that is reached from the start of a text is a place in that text.

## Contents

* `Mark`, `Mark.past`: a place, and the place after a character.
* `isBreak`, `isEnd`, `isStop`: line breaks; those and the end; those, spaces and tabs.
* `Cursor`: `peek`, `advance`, `skip`, `span` and their kin; `Cursor.steps` bounds loops.
* `Cursor.Reaches`: being ahead in the same text, with a lemma for each move.
-/

namespace FrontMatter.Yaml

/-! ## Marks -/

/-- A place: the number of characters before it, and its line and column, all from zero. -/
structure Mark where
  index : Nat
  line : Nat
  column : Nat
  deriving Repr, DecidableEq, Inhabited

/-- The place before the first character. -/
def Mark.start : Mark := ⟨0, 0, 0⟩

/-- The place after the character `c`, which `rest` follows. A line feed ends a line, and so does a
carriage return without one; a byte order mark takes no column. -/
def Mark.past (m : Mark) (c : Char) (rest : List Char) : Mark :=
  if c == '\n' || (c == '\r' && rest.head? != some '\n') then ⟨m.index + 1, m.line + 1, 0⟩
  else if c == '\uFEFF' then ⟨m.index + 1, m.line, m.column⟩
  else ⟨m.index + 1, m.line, m.column + 1⟩

/-! ## Classes of characters -/

/-- The character that stands for the end of the text. -/
def endMark : Char := '\x00'

/-- A line break. -/
def isBreak (c : Char) : Bool :=
  c == '\n' || c == '\r' || c == '\u0085' || c == '\u2028' || c == '\u2029'

/-- A line break or the end. -/
def isEnd (c : Char) : Bool :=
  isBreak c || c == endMark

/-- A line break, the end, a space or a tab. -/
def isStop (c : Char) : Bool :=
  isEnd c || c == ' ' || c == '\t'

/-! ## Cursors -/

/-- A place in a text, with the characters after it. -/
structure Cursor where
  rest : List Char
  mark : Mark
  deriving Repr, DecidableEq, Inhabited

namespace Cursor

/-- The cursor before a text. -/
def ofText (s : String) : Cursor :=
  ⟨s.toList, Mark.start⟩

/-- The next character, or the end mark. -/
def peek (c : Cursor) : Char :=
  c.rest.headD endMark

/-- The character `n` places ahead, or the end mark. -/
def peekAt (c : Cursor) (n : Nat) : Char :=
  c.rest.getD n endMark

/-- A bound for the number of steps from here on, as a list: one for each character that is left,
and one more. It is there already, so it costs nothing to make. -/
def steps (c : Cursor) : List Char :=
  endMark :: c.rest

/-- Whether nothing is left. -/
def atEnd (c : Cursor) : Bool :=
  c.rest.isEmpty

/-- The column of the cursor. -/
def column (c : Cursor) : Nat :=
  c.mark.column

/-- Moves over one character. -/
def advance (c : Cursor) : Cursor :=
  match c.rest with
  | [] => c
  | x :: rest => ⟨rest, c.mark.past x rest⟩

/-- Moves over `n` characters. -/
def skip : Nat → Cursor → Cursor
  | 0, c => c
  | n + 1, c => skip n c.advance

/-- Moves over characters while `p` holds of the character and its successor, and adds them to
`done`, last first. -/
def spanFrom (p : Char → Char → Bool) (done : List Char) : List Char → Mark → List Char × Cursor
  | [], m => (done, ⟨[], m⟩)
  | x :: rest, m =>
    if p x (rest.headD endMark) then spanFrom p (x :: done) rest (m.past x rest)
    else (done, ⟨x :: rest, m⟩)

/-- The longest run of characters with `p`, which sees a character and its successor, and the cursor
after it. -/
def span₂ (p : Char → Char → Bool) (c : Cursor) : List Char × Cursor :=
  let (done, c') := spanFrom p [] c.rest c.mark
  (done.reverse, c')

/-- The longest run of characters with `p`, and the cursor after it. -/
def span (p : Char → Bool) (c : Cursor) : List Char × Cursor :=
  c.span₂ fun x _ => p x

/-- Moves over the longest run of characters with `p`. -/
def skipWhile (p : Char → Bool) (c : Cursor) : Cursor :=
  (c.span p).2

/-- Moves over spaces. -/
def skipSpaces (c : Cursor) : Cursor :=
  c.skipWhile (· == ' ')

/-- Moves to the end of the line. -/
def skipLine (c : Cursor) : Cursor :=
  c.skipWhile fun x => !isEnd x

/-- Moves over a line break, if one is next. Every break but the separators of lines and paragraphs
is read as a line feed, and a carriage return with a line feed after it is one break. -/
def takeBreak (c : Cursor) : Option (Char × Cursor) :=
  let x := c.peek
  if x == '\r' && c.peekAt 1 == '\n' then some ('\n', c.skip 2)
  else if x == '\r' || x == '\n' || x == '\u0085' then some ('\n', c.advance)
  else if x == '\u2028' || x == '\u2029' then some (x, c.advance)
  else none

/-- Whether the three characters `x` are next, and a stop after them. -/
def atTriple (x : Char) (c : Cursor) : Bool :=
  c.peek == x && c.peekAt 1 == x && c.peekAt 2 == x && isStop (c.peekAt 3)

/-- Whether `---` or `...` is next, with a stop after it. -/
def atDocumentMarker (c : Cursor) : Bool :=
  c.atTriple '-' || c.atTriple '.'

/-! ## Being ahead -/

/-- One cursor is ahead of another in the same text: single moves lead there. -/
inductive Reaches : Cursor → Cursor → Prop
  | refl (c : Cursor) : Reaches c c
  | step {c d : Cursor} (h : Reaches c.advance d) : Reaches c d

/-- Being ahead is transitive. -/
theorem Reaches.trans {c d e : Cursor} (h₁ : Reaches c d) (h₂ : Reaches d e) : Reaches c e := by
  induction h₁ with
  | refl => exact h₂
  | step _ ih => exact .step (ih h₂)

/-- A single move leads ahead. -/
theorem reaches_advance (c : Cursor) : Reaches c c.advance :=
  .step (.refl _)

/-- Moves over several characters lead ahead. -/
theorem reaches_skip (n : Nat) (c : Cursor) : Reaches c (c.skip n) := by
  induction n generalizing c with
  | zero => exact .refl c
  | succ n ih => exact .step (ih c.advance)

/-- Moving over a run leads ahead. -/
theorem reaches_spanFrom (p : Char → Char → Bool) (done rest : List Char) (m : Mark) :
    Reaches ⟨rest, m⟩ (spanFrom p done rest m).2 := by
  induction rest generalizing done m with
  | nil => exact .refl _
  | cons x rest ih =>
    unfold spanFrom
    split
    · exact .step (ih _ _)
    · exact .refl _

/-- Moving over a run leads ahead. -/
theorem reaches_span₂ (p : Char → Char → Bool) (c : Cursor) : Reaches c (c.span₂ p).2 :=
  reaches_spanFrom p [] c.rest c.mark

/-- Moving over a run leads ahead. -/
theorem reaches_skipWhile (p : Char → Bool) (c : Cursor) : Reaches c (c.skipWhile p) :=
  reaches_span₂ _ c

/-- Moving over a break leads ahead. -/
theorem reaches_takeBreak {c d : Cursor} {x : Char} (h : c.takeBreak = some (x, d)) :
    Reaches c d := by
  unfold takeBreak at h
  simp only at h
  split at h
  · cases h
    exact reaches_skip 2 c
  · split at h
    · cases h
      exact reaches_advance c
    · split at h
      · cases h
        exact reaches_advance c
      · cases h

end Cursor

end FrontMatter.Yaml
