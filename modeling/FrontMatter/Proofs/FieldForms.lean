import FrontMatter.Proofs.WrittenDays
import FrontMatter.Rules.Field

/-!
# `FrontMatter.Proofs.FieldForms` — the forms of field values, told without tests

The tests of field values are computed. Here each form is told as what a value of the form looks
like, and the test is shown to accept exactly these values.

## Contents

* `IsSlug`, `IsDay`, `IsVersion`, `IsFilledText`: the forms.
* `isSlug_iff`, `isIsoDate_iff`, `isSemver_iff`, `isNonEmptyText_iff`: the tests accept the forms.
-/

namespace FrontMatter

open Calendar (Date)

/-! ## The forms -/

/-- A digit of ASCII. -/
def IsAsciiDigit (c : Char) : Prop :=
  '0' ≤ c ∧ c ≤ '9'

/-- A text of one or more lower-case letters, digits and hyphens. -/
def IsSlug (v : Value) : Prop :=
  ∃ s, v = .str s ∧ s ≠ ""
    ∧ ∀ c ∈ s.toList, ('a' ≤ c ∧ c ≤ 'z') ∨ IsAsciiDigit c ∨ c = '-'

/-- A day, a moment, or the written form of a day. -/
def IsDay (v : Value) : Prop :=
  (∃ d, v = .scalar (.date d)) ∨ (∃ t, v = .scalar (.dateTime t)) ∨ ∃ d : Date, v = .str d.text

/-- One or more digits. -/
def IsNumeral (cs : List Char) : Prop :=
  cs ≠ [] ∧ ∀ c ∈ cs, IsAsciiDigit c

/-- Three numerals with points between them. -/
def IsVersionText (s : String) : Prop :=
  ∃ major minor patch, s.toList = major ++ '.' :: (minor ++ '.' :: patch)
    ∧ IsNumeral major ∧ IsNumeral minor ∧ IsNumeral patch

/-- A text that is a version. -/
def IsVersion (v : Value) : Prop :=
  ∃ s, v = .str s ∧ IsVersionText s

/-- A text with at least one character. -/
def IsFilledText (v : Value) : Prop :=
  ∃ s, v = .str s ∧ s ≠ ""

/-! ## Texts and other values -/

/-- The text that a value is. -/
theorem Value.str?_eq_some_iff {v : Value} {s : String} : v.str? = some s ↔ v = .str s := by
  unfold Value.str?
  split
  · simp
  · next hno =>
    constructor
    · intro h
      cases h
    · intro h
      exact absurd h (hno s)

/-- A test that only texts pass accepts the texts with a property. -/
theorem textTest_iff {test : Value → Bool} {p : String → Prop}
    (htext : ∀ s, test (.str s) = true ↔ p s) (hother : ∀ v, v.str? = none → test v = false)
    {v : Value} : test v = true ↔ ∃ s, v = .str s ∧ p s := by
  cases hv : v.str? with
  | none =>
    rw [hother v hv]
    constructor
    · intro h
      cases h
    · rintro ⟨s, rfl, -⟩
      cases hv
  | some s =>
    obtain rfl := Value.str?_eq_some_iff.mp hv
    rw [htext]
    simp

/-- The digits are the characters from `0` to `9`. -/
theorem isDigit_iff {c : Char} : c.isDigit = true ↔ IsAsciiDigit c := by
  unfold IsAsciiDigit
  rw [Char.isDigit_iff_toNat]
  rfl

/-! ## The tests -/

/-- The slugs are the texts that pass the test for slugs. -/
theorem isSlug_iff {v : Value} : v.isSlug = true ↔ IsSlug v := by
  have hchar : ∀ c : Char, isSlugChar c = true
      ↔ ('a' ≤ c ∧ c ≤ 'z') ∨ IsAsciiDigit c ∨ c = '-' := by
    intro c
    unfold isSlugChar
    rw [Bool.or_eq_true, Bool.or_eq_true, isDigit_iff, beq_iff_eq, or_assoc]
    simp [Char.isLower, Char.le_def]
  apply textTest_iff
  · intro s
    simp [Value.isSlug, isSlugText, hchar]
  · intro v hv
    unfold Value.isSlug
    split
    · cases hv
    · rfl

/-- The days are the values that pass the test for days. -/
theorem isIsoDate_iff {v : Value} : v.isIsoDate = true ↔ IsDay v := by
  unfold Value.isIsoDate IsDay
  split
  · next d => simp
  · next t => simp
  · next s =>
    rw [Option.isSome_iff_exists]
    simp [Date.ofText?_eq_some_iff]
  · next hdate htime hstr =>
    constructor
    · intro h
      cases h
    · rintro (⟨d, rfl⟩ | ⟨t, rfl⟩ | ⟨d, rfl⟩)
      · exact absurd rfl (hdate d)
      · exact absurd rfl (htime t)
      · exact absurd rfl (hstr _)

/-- A numeral is a run of digits. -/
theorem isDigitRun_iff {cs : List Char} : isDigitRun cs = true ↔ IsNumeral cs := by
  unfold isDigitRun IsNumeral
  simp [isDigit_iff]

/-- The version texts are the texts that pass the test for versions. -/
theorem isSemverText_iff {s : String} : isSemverText s.toList = true ↔ IsVersionText s := by
  unfold isSemverText IsVersionText
  dsimp only
  constructor
  · intro h
    rw [Bool.and_eq_true, beq_iff_eq] at h
    obtain ⟨hlength, hall⟩ := h
    obtain ⟨major, minor, patch, hparts⟩ := List.length_eq_three.mp hlength
    rw [hparts] at hall
    refine ⟨major, minor, patch, ?_, ?_⟩
    · -- The parts with points between them are the text again.
      have hjoin : ['.'].intercalate (s.toList.splitOn '.') = s.toList :=
        List.intercalate_splitOn '.'
      rw [hparts] at hjoin
      rw [← hjoin]
      simp [List.intercalate]
    · simpa [isDigitRun_iff] using hall
  · rintro ⟨major, minor, patch, hs, hmajor, hminor, hpatch⟩
    -- No numeral holds a point, so the text splits at the two points between them only.
    have hpoint : ∀ {cs : List Char}, IsNumeral cs → '.' ∉ cs := by
      intro cs hcs hmem
      have hdigit : ('.' : Char).isDigit = true := isDigit_iff.mpr (hcs.2 '.' hmem)
      exact absurd hdigit (by decide)
    rw [hs, List.splitOn_append_cons_self_of_not_mem (hpoint hmajor),
      List.splitOn_append_cons_self_of_not_mem (hpoint hminor),
      List.splitOn_eq_singleton (hpoint hpatch)]
    simp [isDigitRun_iff, hmajor, hminor, hpatch]

/-- The versions are the values that pass the test for versions. -/
theorem isSemver_iff {v : Value} : v.isSemver = true ↔ IsVersion v := by
  apply textTest_iff
  · intro s
    exact isSemverText_iff
  · intro v hv
    unfold Value.isSemver
    split
    · cases hv
    · rfl

/-- The texts with characters are the values that pass the test for them. -/
theorem isNonEmptyText_iff {v : Value} : v.isNonEmptyText = true ↔ IsFilledText v := by
  apply textTest_iff
  · intro s
    simp [Value.isNonEmptyText]
  · intro v hv
    unfold Value.isNonEmptyText
    split
    · cases hv
    · rfl

end FrontMatter
