import FrontMatter.Yaml.Token.BlockText
import FrontMatter.Yaml.Token.Plain

/-!
# `FrontMatter.Proofs.ScanPlaces` — the parts of tokens are read forwards

A fault has the place of a cursor, and cursors only move forwards by single characters. So whatever
part of a token is read, the cursor after it and the place of a fault in it are ahead of the cursor
that the text was read from. A reading is looked at as a whole for this: `Yields` says what holds of
its result if there is one, and of the place of its fault if there is none.

## Contents

* `Fault.IsAt`, `Yields`: where faults are, and what readings yield, with `bind` and its kin.
* `Cursor.Ahead`, `Cursor.Scans`: places ahead of a cursor, and readings that go forwards.
* `scans_uri`, `scans_handle`, `scans_tag`: tags and the names they stand for.
* `scans_directive`: directive lines.
* `scans_quoted`, `reaches_plain`, `scans_name`: scalars and names.
* `scans_blockText`: literal and folded scalars.
-/

namespace FrontMatter.Yaml

/-! ## Readings -/

/-- The place of a fault, if it has one, has a property. -/
def Fault.IsAt (p : Mark → Prop) (f : Fault) : Prop :=
  ∀ m, f.mark? = some m → p m

/-- A fault with a mark is at its mark. -/
theorem Fault.isAt_of_mark {p : Mark → Prop} {f : Fault} {m : Mark} (hmark : f.mark? = some m)
    (h : p m) : f.IsAt p :=
  fun _ hm => Option.some.inj (hmark.symm.trans hm) ▸ h

/-- A fault without a mark has no place. -/
theorem Fault.isAt_of_no_mark {p : Mark → Prop} {f : Fault} (hmark : f.mark? = none) : f.IsAt p :=
  fun _ hm => nomatch hmark.symm.trans hm

/-- The result of a reading has a property, or its fault is at a place with another one. -/
inductive Yields {α : Type} (p : Mark → Prop) (q : α → Prop) : Except Fault α → Prop
  | ok {a : α} (result : q a) : Yields p q (.ok a)
  | error {f : Fault} (place : f.IsAt p) : Yields p q (.error f)

/-- The fault of a reading, if it has one, is at a place with a property. -/
abbrev FailsAt {α : Type} (p : Mark → Prop) (x : Except Fault α) : Prop :=
  Yields p (fun _ => True) x

section Yields

variable {α β : Type} {p : Mark → Prop} {q : α → Prop} {r : β → Prop}

/-- What was read. -/
theorem Yields.result {a : α} (h : Yields p q (.ok a)) : q a := by
  cases h with
  | ok result => exact result

/-- Where the fault is. -/
theorem Yields.place {f : Fault} (h : Yields p q (.error f)) : f.IsAt p := by
  cases h with
  | error place => exact place

/-- A reading that goes on with what was read. -/
theorem Yields.bind {x : Except Fault α} {f : α → Except Fault β} (hx : Yields p q x)
    (hf : ∀ a, q a → Yields p r (f a)) : Yields p r (x >>= f) := by
  cases hx with
  | error place => exact .error place
  | ok result => exact hf _ result

/-- A reading of which only a part is kept, or something made of it. -/
theorem Yields.map {x : Except Fault α} {f : α → β} (hx : Yields p q x)
    (hf : ∀ a, q a → r (f a)) : Yields p r (x.map f) := by
  cases hx with
  | error place => exact .error place
  | ok result => exact .ok (hf _ result)

/-- A reading that goes on with what was read, whatever that is. -/
theorem FailsAt.bind {x : Except Fault α} {f : α → Except Fault β} (hx : FailsAt p x)
    (hf : ∀ a, Yields p r (f a)) : Yields p r (x >>= f) :=
  Yields.bind hx fun a _ => hf a

/-- A reading of which something is made has the same faults. -/
theorem FailsAt.map {x : Except Fault α} (hx : FailsAt p x) (f : α → β) : FailsAt p (x.map f) :=
  Yields.map hx fun _ _ => trivial

/-- One of two readings. -/
theorem Yields.ite {b : Prop} [Decidable b] {x y : Except Fault α} (hx : Yields p q x)
    (hy : Yields p q y) : Yields p q (if b then x else y) := by
  split
  · exact hx
  · exact hy

end Yields

/-! ## Going forwards -/

namespace Cursor

variable {start c d : Cursor}

/-- The place of some cursor that is ahead. -/
def Ahead (start : Cursor) (m : Mark) : Prop :=
  ∃ c, Reaches start c ∧ c.mark = m

/-- The place of a cursor that is ahead is ahead. -/
theorem Reaches.ahead (h : Reaches start c) : start.Ahead c.mark :=
  ⟨c, h, rfl⟩

/-- One character further on. -/
theorem Reaches.advance (h : Reaches start c) : Reaches start c.advance :=
  h.trans (reaches_advance c)

/-- Several characters further on. -/
theorem Reaches.skip (h : Reaches start c) (n : Nat) : Reaches start (c.skip n) :=
  h.trans (reaches_skip n c)

/-- Past a run. -/
theorem Reaches.skipWhile (h : Reaches start c) (p : Char → Bool) :
    Reaches start (c.skipWhile p) :=
  h.trans (reaches_skipWhile p c)

/-- Past a run that is kept. -/
theorem Reaches.span₂ (h : Reaches start c) (p : Char → Char → Bool) :
    Reaches start (c.span₂ p).2 :=
  h.trans (reaches_span₂ p c)

/-- Past a run that is kept. -/
theorem Reaches.span (h : Reaches start c) (p : Char → Bool) : Reaches start (c.span p).2 :=
  h.span₂ _

/-- Past a line break. -/
theorem Reaches.of_takeBreak {x : Char} (h : Reaches start c)
    (hbreak : c.takeBreak = some (x, d)) : Reaches start d :=
  h.trans (reaches_takeBreak hbreak)

/-- Past one of two parts. -/
theorem reaches_ite {α : Type} {b : Prop} [Decidable b] {x y : α × Cursor}
    (hx : Reaches start x.2) (hy : Reaches start y.2) : Reaches start (if b then x else y).2 := by
  split
  · exact hx
  · exact hy

/-- A reading that goes forwards: the cursor after it, or the place of its fault, is ahead. -/
def Scans {α : Type} (start : Cursor) (x : Except Fault (α × Cursor)) : Prop :=
  Yields start.Ahead (fun r => Reaches start r.2) x

/-- A reading that goes on where another one has stopped. -/
theorem Scans.bind {α β : Type} {x : Except Fault (α × Cursor)} {f : α × Cursor → Except Fault β}
    {q : β → Prop} (hx : start.Scans x)
    (hf : ∀ a d, Reaches start d → Yields start.Ahead q (f (a, d))) :
    Yields start.Ahead q (x >>= f) :=
  Yields.bind hx fun r hr => hf r.1 r.2 hr

/-- A fault at a cursor that is ahead. -/
theorem Reaches.yields_fault {α : Type} {q : α → Prop} (h : Reaches start c) (cause : Cause) :
    Yields start.Ahead q (c.fault cause) :=
  .error (Fault.isAt_of_mark rfl h.ahead)

end Cursor

open Cursor

variable {start c : Cursor}

/-! ## Names, handles and tags -/

/-- Escaped bytes. -/
theorem scans_escapesFrom (place : TagPlace) (steps : List Char) (done : List UInt8)
    (h : Reaches start c) : start.Scans (scanEscapesFrom place steps done c) := by
  induction steps generalizing done c with
  | nil => exact .ok h
  | cons _ steps ih =>
    simp only [scanEscapesFrom]
    split
    · exact .ok h
    · split
      · exact h.advance.yields_fault _
      · split
        · exact h.advance.yields_fault _
        · exact ih _ (h.advance.skip 2)

/-- A run of escaped bytes. -/
theorem scans_escapes (place : TagPlace) (h : Reaches start c) :
    start.Scans (scanEscapes place c) := by
  unfold scanEscapes
  refine (scans_escapesFrom place c.steps [] h).bind fun done d hd => ?_
  dsimp only
  split
  · exact .ok hd
  · exact h.yields_fault _

/-- The rest of a name. -/
theorem scans_uriFrom (v : Version) (place : TagPlace) (steps done : List Char)
    (h : Reaches start c) : start.Scans (scanUriFrom v place steps done c) := by
  induction steps generalizing done c with
  | nil => exact .ok h
  | cons _ steps ih =>
    simp only [scanUriFrom]
    have hrun := h.span (fun x => isUriChar v x && x != '%')
    split
    · exact (scans_escapes place hrun).bind fun ys d hd => ih _ hd
    · exact .ok hrun

/-- A name. -/
theorem scans_uri (v : Version) (place : TagPlace) (h : Reaches start c) :
    start.Scans (scanUri v place c) := by
  unfold scanUri
  split
  · exact h.yields_fault _
  · exact (scans_uriFrom v place c.steps [] h).bind fun _ _ hd => .ok hd

/-- A handle. -/
theorem scans_handle (place : TagPlace) (h : Reaches start c) :
    start.Scans (scanHandle place c) := by
  simp only [scanHandle]
  have hword := h.advance.span isWordChar
  split
  · exact h.yields_fault _
  · split
    · exact .ok h.advance
    · split
      · exact hword.yields_fault _
      · exact .ok hword.advance

/-- Handle and suffix of a tag. -/
theorem scans_shorthand (v : Version) (short : String) (h : Reaches start c) :
    start.Scans (scanShorthand v short c) := by
  simp only [scanShorthand]
  split
  · exact (scans_handle .node h).bind fun handle d hd =>
      (scans_uri v .node hd).bind fun suffix e he => .ok he
  · exact (scans_uri v .node h.advance).bind fun suffix e he => .ok he

/-- A tag. -/
theorem scans_tag (v : Version) (h : Reaches start c) : start.Scans (scanTag v c) := by
  have hend : ∀ (tag : RawTag) (e : Cursor), Reaches start e → start.Scans
      (if isWordEnd e.peek then pure (tag, e) else e.fault (.tagEnd e.peek)) := by
    intro tag e he
    split
    · exact .ok he
    · exact he.yields_fault _
  have hmark : Reaches start (if c.peekAt 1 == '!' then c.advance else c) := by
    split
    · exact h.advance
    · exact h
  simp only [scanTag]
  generalize (if c.peekAt 1 == '!' then c.advance else c) = d at hmark ⊢
  split
  · refine (scans_uri v .node (hmark.skip 2)).bind fun suffix e he => ?_
    dsimp only
    split
    · exact he.yields_fault _
    · exact hend _ _ he.advance
  · split
    · exact hend _ _ hmark.advance
    · exact (scans_shorthand v _ hmark).bind fun tag e he => hend tag e he

/-! ## Directive lines -/

/-- A decimal number. -/
theorem scans_number (h : Reaches start c) : start.Scans (scanNumber c) := by
  simp only [scanNumber]
  split
  · exact h.yields_fault _
  · split
    · exact .error (Fault.isAt_of_no_mark rfl)
    · exact .ok (h.span _)

/-- A version. -/
theorem scans_version (h : Reaches start c) : start.Scans (scanVersion c) := by
  simp only [scanVersion]
  refine (scans_number (h.skipWhile _)).bind fun major d hd => ?_
  dsimp only
  split
  · exact hd.yields_fault _
  · refine (scans_number hd.advance).bind fun minor e he => ?_
    dsimp only
    split
    · exact .ok he
    · exact he.yields_fault _

/-- A handle and its meaning. -/
theorem scans_handleMeaning (v : Version) (h : Reaches start c) :
    start.Scans (scanHandleMeaning v c) := by
  simp only [scanHandleMeaning]
  refine (scans_handle .directive (h.skipWhile _)).bind fun handle d hd => ?_
  dsimp only
  split
  · exact hd.yields_fault _
  · refine (scans_uri v .directive (hd.skipWhile _)).bind fun uri e he => ?_
    dsimp only
    split
    · exact .ok he
    · exact he.yields_fault _

/-- The end of a line. -/
theorem yields_lineEnd (cause : Char → Cause) (h : Reaches start c) :
    Yields start.Ahead (Reaches start) (scanLineEnd cause c) := by
  have hcomment : Reaches start
      (if c.skipSpaces.peek == '#' then c.skipSpaces.skipLine else c.skipSpaces) := by
    split
    · exact (h.skipWhile _).skipWhile _
    · exact h.skipWhile _
  simp only [scanLineEnd]
  generalize (if c.skipSpaces.peek == '#' then c.skipSpaces.skipLine else c.skipSpaces) = d
    at hcomment ⊢
  split
  · cases hbreak : d.takeBreak with
    | none => exact .ok hcomment
    | some r => exact .ok (hcomment.of_takeBreak hbreak)
  · exact hcomment.yields_fault _

/-- A directive line; its mark is ahead too. -/
theorem scans_directive (v : Version) (h : Reaches start c) :
    Yields start.Ahead (fun r => Reaches start r.2 ∧ start.Ahead r.1.2) (scanDirective v c) := by
  have hrest : ∀ (directive : Directive) (stop : Cursor), Reaches start stop →
      Yields start.Ahead (fun r => Reaches start r.2 ∧ start.Ahead r.1.2) (do
        let d ← scanLineEnd .directiveEnd (if directive == .other then stop.skipLine else stop)
        return ((directive, stop.mark), d)) := by
    intro directive stop hstop
    have hline : Reaches start (if directive == .other then stop.skipLine else stop) := by
      split
      · exact hstop.skipWhile _
      · exact hstop
    exact (yields_lineEnd .directiveEnd hline).bind fun d hd => .ok ⟨hd, hstop.ahead⟩
  have hname := h.advance.span isDirectiveChar
  simp only [scanDirective]
  split
  · exact hname.yields_fault _
  · split
    · exact (scans_version hname).bind hrest
    · split
      · exact (scans_handleMeaning v hname).bind hrest
      · exact hrest _ _ hname

/-! ## Scalars in quotes -/

/-- Line breaks with the blanks around them. -/
theorem scans_breaksFrom (steps done : List Char) (h : Reaches start c) :
    start.Scans (scanBreaksFrom steps done c) := by
  induction steps generalizing done c with
  | nil => exact .ok h
  | cons _ steps ih =>
    simp only [scanBreaksFrom]
    have hblanks := h.skipWhile isSpaceOrTab
    split
    · exact h.yields_fault _
    · split
      · exact ih _ (hblanks.of_takeBreak ‹_›)
      · exact .ok hblanks

/-- Line breaks with the blanks around them. -/
theorem scans_breaks (h : Reaches start c) : start.Scans (scanBreaks c) :=
  scans_breaksFrom c.steps [] h

/-- Blanks between the words of a scalar. -/
theorem scans_fold (h : Reaches start c) : start.Scans (scanFold c) := by
  simp only [scanFold]
  have hblanks := h.span isSpaceOrTab
  split
  · exact hblanks.yields_fault _
  · split
    · exact (scans_breaks (hblanks.of_takeBreak ‹_›)).bind fun more d hd => .ok hd
    · exact .ok hblanks

/-- A second escape that belongs to the first. -/
theorem reaches_secondHalf {first : Nat} {x : Char} {d : Cursor} (h : Reaches start c)
    (hhalf : scanSecondHalf? first c = some (x, d)) : Reaches start d := by
  unfold scanSecondHalf? at hhalf
  simp only [Option.ite_none_right_eq_some, Option.some.injEq, Prod.mk.injEq] at hhalf
  obtain ⟨-, -, -, rfl⟩ := hhalf
  exact h.skip 6

/-- A number as a character. -/
theorem yields_charOfNumber (p : Mark → Prop) (n : Nat) :
    FailsAt p (charOfNumber n) := by
  unfold charOfNumber
  split
  · exact .ok trivial
  · exact .error (Fault.isAt_of_no_mark rfl)

/-- What follows a backslash. -/
theorem scans_escape (h : Reaches start c) : start.Scans (scanEscape c) := by
  unfold scanEscape
  cases escapeOf? c.peek with
  | some x => exact .ok h.advance
  | none =>
    cases escapeWidth? c.peek with
    | some width =>
      have hdigits := h.advance.skip width
      dsimp only
      split
      · exact h.advance.yields_fault _
      · split
        · exact .ok (reaches_secondHalf hdigits ‹_›)
        · exact (yields_charOfNumber _ _).bind fun x => .ok hdigits
    | none =>
      dsimp only
      split
      · exact scans_breaks (h.of_takeBreak ‹_›)
      · exact h.yields_fault _

/-- The text up to the closing quote. -/
theorem scans_quotedFrom (double : Bool) (steps done : List Char) (h : Reaches start c) :
    start.Scans (scanQuotedFrom double steps done c) := by
  induction steps generalizing done c with
  | nil => exact .ok h
  | cons _ steps ih =>
    simp only [scanQuotedFrom]
    have hrun := h.span isOrdinary
    split
    · exact .ok hrun.advance
    · split
      · exact (scans_escape hrun.advance).bind fun ys d hd => ih _ hd
      · split
        · split
          · exact ih _ (hrun.skip 2)
          · exact .ok hrun.advance
        · split
          · exact ih _ hrun.advance
          · exact (scans_fold hrun).bind fun ys d hd => ih _ hd

/-- A scalar in quotes. -/
theorem scans_quoted (double : Bool) (h : Reaches start c) :
    start.Scans (scanQuoted double c) :=
  (scans_quotedFrom double c.steps [] h.advance).bind fun _ _ hd => .ok hd

/-! ## Scalars without quotes, and names -/

/-- Line breaks with the spaces around them. -/
theorem reaches_plainBreaks (steps done : List Char) (h : Reaches start c) :
    Reaches start (scanPlainBreaks steps done c).2 := by
  induction steps generalizing done c with
  | nil => exact h
  | cons _ steps ih =>
    simp only [scanPlainBreaks]
    have hspaces := h.skipWhile (· == ' ')
    split
    · exact h
    · split
      · exact ih _ (hspaces.of_takeBreak ‹_›)
      · exact hspaces

/-- What stands between two words. -/
theorem reaches_gap (h : Reaches start c) : Reaches start (scanGap c).2 := by
  simp only [scanGap]
  have hspaces := h.span (· == ' ')
  split
  · rename_i b d hbreak
    have hbreaks := reaches_plainBreaks d.steps [] (hspaces.of_takeBreak hbreak)
    cases hmore : scanPlainBreaks d.steps [] d with
    | mk more e =>
      rw [hmore] at hbreaks
      cases more <;> exact hbreaks
  · exact hspaces

/-- Words. -/
theorem reaches_plainFrom (k : PlainContext) (indent : Nat) (steps done : List Char) (gap : Gap)
    (h : Reaches start c) : Reaches start (scanPlainFrom k indent steps done gap c).2 := by
  induction steps generalizing done gap c with
  | nil => exact h
  | cons _ steps ih =>
    simp only [scanPlainFrom]
    have hgap := reaches_gap (h.span₂ (continuesPlain k))
    split
    · exact h
    · split
      · exact hgap
      · exact ih _ _ hgap

/-- A plain scalar. -/
theorem reaches_plain (k : PlainContext) (indent : Nat) (h : Reaches start c) :
    Reaches start (scanPlain k indent c).2 :=
  reaches_plainFrom k indent c.steps [] ⟨[], false⟩ h

/-- The name of an anchor or alias. -/
theorem scans_name (isAlias : Bool) (h : Reaches start c) : start.Scans (scanName isAlias c) := by
  simp only [scanName]
  have hname := h.advance.span isNameChar
  split
  · exact hname.yields_fault _
  · exact .ok hname

/-! ## Literal and folded scalars -/

/-- The indicator of how the end is treated. -/
theorem reaches_chomping (h : Reaches start c) : Reaches start (scanChomping c).2 := by
  unfold scanChomping
  exact reaches_ite h.advance (reaches_ite h.advance h)

/-- The indicator of the indentation. -/
theorem scans_indentation (h : Reaches start c) : start.Scans (scanIndentation c) := by
  unfold scanIndentation
  split
  · exact h.yields_fault _
  · split
    · exact .ok h.advance
    · exact .ok h

/-- A header. -/
theorem scans_blockHeader (h : Reaches start c) : start.Scans (scanBlockHeader c) := by
  simp only [scanBlockHeader]
  refine (scans_indentation (reaches_chomping h)).bind fun depth d hd => ?_
  have hsecond : Reaches start (if (scanChomping c).1 == .clip && depth.isSome then scanChomping d
      else ((scanChomping c).1, d)).2 := reaches_ite (reaches_chomping hd) hd
  dsimp only
  generalize (if (scanChomping c).1 == .clip && depth.isSome then scanChomping d
    else ((scanChomping c).1, d)) = second at hsecond ⊢
  split
  · exact hsecond.yields_fault _
  · exact (yields_lineEnd .blockHeaderEnd hsecond).bind fun e he => .ok he

/-- Spaces and breaks before the first line. -/
theorem reaches_leadingBlanksFrom (steps : List Char) (b : LeadingBlanks) (h : Reaches start c) :
    Reaches start (scanLeadingBlanksFrom steps b c).2 := by
  induction steps generalizing b c with
  | nil => exact h
  | cons _ steps ih =>
    simp only [scanLeadingBlanksFrom]
    split
    · exact ih _ (h.skipWhile _)
    · split
      · exact ih _ (h.of_takeBreak ‹_›)
      · exact h

/-- The empty lines before the first line. -/
theorem scans_leadingBlanks (h : Reaches start c) : start.Scans (scanLeadingBlanks c) := by
  simp only [scanLeadingBlanks]
  have hblanks := reaches_leadingBlanksFrom c.steps ⟨[], none, 0⟩ h
  split
  · split
    · exact hblanks.yields_fault _
    · exact .ok hblanks
  · exact .ok hblanks

/-- The spaces up to a column. -/
theorem reaches_skipIndentation (indent fuel : Nat) (h : Reaches start c) :
    Reaches start (skipIndentation indent fuel c) := by
  induction fuel generalizing c with
  | zero => exact h
  | succ fuel ih =>
    unfold skipIndentation
    split
    · exact ih h.advance
    · exact h

/-- Empty lines. -/
theorem reaches_indentedBreaksFrom (indent : Nat) (steps done : List Char) (h : Reaches start c) :
    Reaches start (scanIndentedBreaksFrom indent steps done c).2 := by
  induction steps generalizing done c with
  | nil => exact h
  | cons _ steps ih =>
    simp only [scanIndentedBreaksFrom]
    have hspaces := reaches_skipIndentation indent indent h
    split
    · exact ih _ (hspaces.of_takeBreak ‹_›)
    · exact hspaces

/-- Empty lines. -/
theorem reaches_indentedBreaks (indent : Nat) (h : Reaches start c) :
    Reaches start (scanIndentedBreaks indent c).2 :=
  reaches_indentedBreaksFrom indent c.steps [] h

/-- The break at the end of a line, if it has one. -/
theorem reaches_lineBreak (h : Reaches start c) :
    Reaches start (match c.takeBreak with
      | some (b, d) => ([b], d)
      | none => ([], c)).2 := by
  split
  · exact h.of_takeBreak ‹_›
  · exact h

/-- The lines of a scalar. -/
theorem reaches_blockLinesFrom (folded unindented : Bool) (indent : Nat)
    (steps done breaks : List Char) (h : Reaches start c) :
    Reaches start (scanBlockLinesFrom folded unindented indent steps done breaks c).2 := by
  induction steps generalizing done breaks c with
  | nil => exact h
  | cons _ steps ih =>
    have hnext := reaches_indentedBreaks indent (reaches_lineBreak (h.span fun x => !isEnd x))
    simp only [scanBlockLinesFrom]
    exact reaches_ite hnext (reaches_ite (ih _ _ hnext) hnext)

/-- The lines of a scalar, if it has any. -/
theorem reaches_blockLines (folded unindented : Bool) (indent : Nat) (breaks : List Char)
    (h : Reaches start c) :
    Reaches start (if atLine indent c then
      scanBlockLinesFrom folded unindented indent c.steps [] breaks c
      else (([], [], breaks), c)).2 :=
  reaches_ite (reaches_blockLinesFrom folded unindented indent c.steps [] breaks h) h

/-- A literal or folded scalar. -/
theorem scans_blockText (folded : Bool) (least : Nat) (h : Reaches start c) :
    start.Scans (scanBlockText folded least c) := by
  unfold scanBlockText
  refine (scans_blockHeader h.advance).bind fun header d hd => ?_
  obtain ⟨chomping, depth⟩ := header
  cases depth with
  | some n => exact .ok (reaches_blockLines _ _ _ _ (reaches_indentedBreaks _ hd))
  | none =>
    exact (scans_leadingBlanks hd).bind fun b e he => .ok (reaches_blockLines _ _ _ _ he)

end FrontMatter.Yaml
