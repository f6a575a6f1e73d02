import FrontMatter.Text.Ansi
import Mathlib.Data.List.Basic

/-!
# `FrontMatter.Proofs.EscapeSequences` — what escape sequences leave of a text

Escape sequences are put between the characters of a text and take none of them away, so a text
without escape characters of its own is what is left when they are dropped.

## Contents

* `unstyledFrom_append`, `unstyledFrom_rendition`: what is kept, and what is dropped.
* `Dresses`, `Dressed`: a text with escape sequences, and the text that it shows.
* `Dressed.unstyled_eq`, `Dressed.not_mem`, `Dressed.count_feed`: what dropping them leaves.
* `Dressed.append`, `Dressed.intercalate`: texts that are put together.
* `dressed_styled`, `unstyled_styled`: a text in a style.
-/

namespace FrontMatter

open Text (Colour Style between escapeMark rendition styled unstyled unstyledFrom)

/-! ## Dropping sequences -/

/-- Text without escape characters is kept as it is. -/
theorem unstyledFrom_append {cs : List Char} (h : escapeMark ∉ cs) (done rest : List Char) :
    unstyledFrom done (cs ++ rest) = unstyledFrom (cs.reverse ++ done) rest := by
  induction cs generalizing done with
  | nil => rfl
  | cons c cs ih =>
    rw [List.mem_cons, not_or] at h
    have hplain : ¬ (c == escapeMark) = true := by simpa using Ne.symm h.1
    rw [List.cons_append, unstyledFrom, if_neg hplain, ih h.2, List.reverse_cons, List.append_assoc]
    rfl

/-- A sequence that selects a rendition is dropped. -/
theorem unstyledFrom_rendition {code : String} (h : ∀ c ∈ code.toList, between 0x30 0x3F c = true)
    (done rest : List Char) :
    unstyledFrom done ((rendition code).toList ++ rest) = unstyledFrom done rest := by
  have hafter : Text.afterSequence? ('[' :: (code.toList ++ 'm' :: rest)) = some rest := by
    have hfirst : (code.toList ++ 'm' :: rest).dropWhile (between 0x30 0x3F) = 'm' :: rest := by
      rw [List.dropWhile_append_of_pos h, List.dropWhile_cons_of_neg (by decide)]
    simp only [Text.afterSequence?, hfirst]
    rw [List.dropWhile_cons_of_neg (by decide)]
    rfl
  have hwritten : (rendition code).toList ++ rest
      = escapeMark :: '[' :: (code.toList ++ 'm' :: rest) := by
    simp [rendition]
  rw [hwritten, unstyledFrom, if_pos (beq_self_eq_true _)]
  split
  · next after heq =>
    obtain rfl : rest = after := Option.some.inj (hafter.symm.trans heq)
    rfl
  · next heq =>
    rw [hafter] at heq
    cases heq

/-! ## Texts with escape sequences -/

/-- Characters with escape sequences between them, and the characters alone. -/
inductive Dresses : List Char → List Char → Prop
  | nil : Dresses [] []
  | keep {c : Char} {cs ds : List Char} (hc : c ≠ escapeMark) (h : Dresses cs ds) :
      Dresses (c :: cs) (c :: ds)
  | sequence {code : String} {cs ds : List Char}
      (hcode : ∀ c ∈ code.toList, between 0x30 0x3F c = true) (h : Dresses cs ds) :
      Dresses ((rendition code).toList ++ cs) ds

/-- Texts one after the other are dressed one by one. -/
theorem Dresses.append {cs ds es fs : List Char} (h : Dresses cs ds) (h' : Dresses es fs) :
    Dresses (cs ++ es) (ds ++ fs) := by
  induction h with
  | nil => exact h'
  | keep hc _ ih => exact .keep hc ih
  | sequence hcode _ ih =>
    rw [List.append_assoc]
    exact .sequence hcode ih

/-- A text without escape characters needs no sequences. -/
theorem Dresses.ofPlain {cs : List Char} (h : escapeMark ∉ cs) : Dresses cs cs := by
  induction cs with
  | nil => exact .nil
  | cons c cs ih =>
    rw [List.mem_cons, not_or] at h
    exact .keep (Ne.symm h.1) (ih h.2)

/-- Dropping the sequences leaves the characters. -/
theorem Dresses.unstyledFrom_eq {cs ds : List Char} (h : Dresses cs ds) (done : List Char) :
    unstyledFrom done cs = done.reverse ++ ds := by
  induction h generalizing done with
  | nil => rw [unstyledFrom, List.append_nil]
  | @keep c cs ds hc _ ih =>
    rw [unstyledFrom, if_neg (by simpa using hc), ih, List.reverse_cons, List.append_assoc]
    rfl
  | sequence hcode _ ih => rw [unstyledFrom_rendition hcode, ih]

/-- The characters alone hold no escape character. -/
theorem Dresses.not_mem {cs ds : List Char} (h : Dresses cs ds) : escapeMark ∉ ds := by
  induction h with
  | nil => exact List.not_mem_nil
  | keep hc _ ih =>
    rw [List.mem_cons, not_or]
    exact ⟨Ne.symm hc, ih⟩
  | sequence _ _ ih => exact ih

/-- No sequence holds a line feed. -/
theorem Dresses.count_feed {cs ds : List Char} (h : Dresses cs ds) :
    cs.count '\n' = ds.count '\n' := by
  induction h with
  | nil => rfl
  | keep _ _ ih => rw [List.count_cons, List.count_cons, ih]
  | @sequence code cs ds hcode _ ih =>
    have hnone : '\n' ∉ (rendition code).toList := by
      intro hmem
      rw [rendition, String.toList_ofList, List.mem_cons, List.mem_cons, List.mem_append] at hmem
      rcases hmem with h | h | h | h
      · exact absurd h (by decide)
      · exact absurd h (by decide)
      · exact absurd (hcode _ h) (by decide)
      · exact absurd h (by decide)
    rw [List.count_append, List.count_eq_zero.mpr hnone, Nat.zero_add, ih]

/-- A text with escape sequences, and the text that it shows. -/
def Dressed (shown plain : String) : Prop :=
  Dresses shown.toList plain.toList

namespace Dressed

variable {s t u v : String}

/-- A text without escape characters shows itself. -/
theorem ofPlain (h : escapeMark ∉ t.toList) : Dressed t t :=
  Dresses.ofPlain h

/-- Texts one after the other are shown one after the other. -/
theorem append (h : Dressed s t) (h' : Dressed u v) : Dressed (s ++ u) (t ++ v) := by
  unfold Dressed
  rw [String.toList_append, String.toList_append]
  exact Dresses.append h h'

/-- Dropping the sequences leaves what is shown. -/
theorem unstyled_eq (h : Dressed s t) : unstyled s = t := by
  unfold unstyled
  rw [Dresses.unstyledFrom_eq h, List.reverse_nil, List.nil_append, String.ofList_toList]

/-- What is shown holds no escape character. -/
theorem not_mem (h : Dressed s t) : escapeMark ∉ t.toList :=
  Dresses.not_mem h

/-- What is shown has as many line feeds. -/
theorem count_feed (h : Dressed s t) : s.toList.count '\n' = t.toList.count '\n' :=
  Dresses.count_feed h

/-- Lines are shown line by line. -/
theorem intercalate {ls ms : List String} (h : List.Forall₂ Dressed ls ms) :
    Dressed (String.intercalate "\n" ls) (String.intercalate "\n" ms) := by
  have hfeed : Dressed "\n" "\n" := ofPlain (by decide)
  induction h with
  | nil => exact Dresses.nil
  | @cons s t ls ms hst hrest ih =>
    cases hrest with
    | nil => simpa using hst
    | cons hfirst hlater =>
      rw [String.intercalate_cons_cons, String.intercalate_cons_cons]
      exact (hst.append hfeed).append ih

end Dressed

/-! ## Texts in a style -/

/-- A text without escape characters is what a style shows of it. -/
theorem dressed_styled (style : Style) {text : String} (h : escapeMark ∉ text.toList) :
    Dressed (styled style text) text := by
  have hsequence : ∀ code : String, (∀ c ∈ code.toList, between 0x30 0x3F c = true) →
      Dressed (rendition code) "" := by
    intro code hcode
    have hdresses := Dresses.sequence hcode .nil
    rwa [List.append_nil] at hdresses
  have hcolour : ∀ colour : Colour, ∀ c ∈ colour.code.toList, between 0x30 0x3F c = true := by
    intro colour
    apply List.all_eq_true.mp
    cases colour <;> decide
  have hopening : Dressed style.opening "" := by
    have hfirst : Dressed ((style.colour.map fun c => rendition c.code).getD "") "" := by
      cases style.colour with
      | none => exact Dresses.nil
      | some colour => exact hsequence _ (hcolour colour)
    have hsecond : Dressed (if style.bold then rendition "1" else "") "" := by
      cases style.bold with
      | false => exact Dresses.nil
      | true => exact hsequence "1" (List.all_eq_true.mp (by decide))
    exact hfirst.append hsecond
  have hclosing := hsequence "0" (List.all_eq_true.mp (by decide))
  have hall := (hopening.append (Dressed.ofPlain h)).append hclosing
  rw [String.empty_append, String.append_empty] at hall
  exact hall

/-- A text without escape characters is what is left of it in a colour. -/
theorem unstyled_styled (colour : Colour) {text : String} (h : escapeMark ∉ text.toList) :
    unstyled (styled ⟨some colour, false⟩ text) = text :=
  (dressed_styled _ h).unstyled_eq

end FrontMatter
