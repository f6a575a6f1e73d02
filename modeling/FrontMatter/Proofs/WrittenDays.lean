import FrontMatter.Calendar.Read
import Mathlib

/-!
# `FrontMatter.Proofs.WrittenDays` — the days that texts name

Reading a day and writing it are inverse to each other: a text names a day exactly when it is the
written form of that day.

## Contents

* `IsRun`, `takeDigits_eq_some_iff`, `digitsValue_injOn`: runs of digits and their values.
* `isRun_padded`, `toList_padded_of_isRun`: numbers of a fixed width.
* `Date.ofText?_eq_some_iff`: reading is the inverse of writing.
-/

namespace FrontMatter

open Text (digitsValue takeChar takeDigits)

namespace Text

/-! ## Runs of digits -/

/-- A run of `n` digits with the value `v`. -/
def IsRun (n : Nat) (ds : List Char) (v : Nat) : Prop :=
  ds.length = n ∧ (∀ d ∈ ds, d.isDigit = true) ∧ digitsValue ds = v

/-- A fixed number of digits is taken exactly from a text that starts with them. -/
theorem takeDigits_eq_some_iff {n : Nat} {cs rest : List Char} {v : Nat} :
    takeDigits n cs = some (v, rest) ↔ ∃ ds, cs = ds ++ rest ∧ IsRun n ds v := by
  unfold takeDigits
  constructor
  · intro h
    dsimp only at h
    split at h
    · next hcond =>
      rw [Bool.and_eq_true, beq_iff_eq, List.all_eq_true] at hcond
      obtain ⟨rfl, rfl⟩ := Prod.mk.inj (Option.some.inj h)
      exact ⟨cs.take n, (List.take_append_drop n cs).symm, hcond.1, hcond.2, rfl⟩
    · cases h
  · rintro ⟨ds, rfl, rfl, hdigits, rfl⟩
    have hall : ds.all Char.isDigit = true := List.all_eq_true.mpr hdigits
    simp [hall]

/-- A character is taken exactly from a text that starts with it. -/
theorem takeChar_eq_some_iff {x : Char} {cs rest : List Char} :
    takeChar x cs = some rest ↔ cs = x :: rest := by
  cases cs with
  | nil => simp [takeChar]
  | cons c cs => simp [takeChar]

/-- A digit more at the end. -/
theorem digitsValue_concat (ds : List Char) (d : Char) :
    digitsValue (ds ++ [d]) = digitsValue ds * 10 + (d.toNat - '0'.toNat) := by
  simp [digitsValue]

/-- Runs of digits of one length are told apart by their values. -/
theorem digitsValue_injOn {ds es : List Char} (hlength : ds.length = es.length)
    (hds : ∀ d ∈ ds, d.isDigit = true) (hes : ∀ e ∈ es, e.isDigit = true)
    (hvalue : digitsValue ds = digitsValue es) : ds = es := by
  -- From the end: equal values have equal last digits, and equal values in front of them.
  induction ds using List.reverseRecOn generalizing es with
  | nil => exact (List.length_eq_zero_iff.mp hlength.symm).symm
  | append_singleton ds d ih =>
    obtain rfl | ⟨es', e, rfl⟩ := List.eq_nil_or_concat es
    · simp at hlength
    · rw [List.concat_eq_append] at *
      rw [digitsValue_concat, digitsValue_concat] at hvalue
      have hd := Char.isDigit_iff_toNat.mp (hds d (by simp))
      have he := Char.isDigit_iff_toNat.mp (hes e (by simp))
      have hzero : '0'.toNat = 48 := rfl
      have hnine : '9'.toNat = 57 := rfl
      have hlast : d = e := Char.toNat_inj.mp (by omega)
      have hfront : ds = es' := by
        refine ih (by simpa using hlength) (fun c hc => hds c (by simp [hc]))
          (fun c hc => hes c (by simp [hc])) ?_
        omega
      rw [hfront, hlast]

end Text

namespace Calendar

/-! ## Numbers of a fixed width -/

/-- The characters of a number of a fixed width. -/
theorem toList_padded (width n : Nat) :
    (padded width n).toList
      = List.replicate (width - (Nat.toDigits 10 n).length) '0' ++ Nat.toDigits 10 n := by
  simp [padded]

/-- A number that is not too large is written as a run of its width and value. -/
theorem isRun_padded {width n : Nat} (hwidth : 0 < width) (h : n < 10 ^ width) :
    Text.IsRun width (padded width n).toList n := by
  have hfold : ∀ cs, digitsValue cs = Nat.ofDigitChars 10 cs 0 := by
    intro cs
    simp only [digitsValue, Nat.ofDigitChars_eq_foldl, Nat.mul_comm]
  rw [toList_padded]
  refine ⟨?_, ?_, ?_⟩
  · -- The number has at most as many digits as the width, and the zeros fill it up.
    have hle := (Nat.length_toDigits_le_iff (by decide) hwidth).mpr h
    rw [List.length_append, List.length_replicate]
    omega
  · intro d hd
    rcases List.mem_append.mp hd with hd | hd
    · obtain ⟨-, rfl⟩ := List.mem_replicate.mp hd
      rfl
    · exact Nat.isDigit_of_mem_toDigits (by decide) (by decide) hd
  · rw [hfold, Nat.ofDigitChars_append, Nat.ofDigitChars_replicate_zero, Nat.mul_zero]
    exact Nat.ofDigitChars_toDigits (by decide) (by decide)

/-- A run of digits is its value, written with the width of the run. -/
theorem toList_padded_of_isRun {width n : Nat} {ds : List Char} (hwidth : 0 < width)
    (h : n < 10 ^ width) (hds : Text.IsRun width ds n) : (padded width n).toList = ds := by
  obtain ⟨hlength, hdigits, hvalue⟩ := isRun_padded hwidth h
  exact Text.digitsValue_injOn (hlength.trans hds.1.symm) hdigits hds.2.1
    (hvalue.trans hds.2.2.symm)

/-! ## Days -/

/-- The three numbers of a written day. -/
theorem takeDate_eq_some_iff {cs rest : List Char} {y m d : Nat} :
    takeDate cs = some ((y, m, d), rest)
      ↔ ∃ ys ms ds, cs = ys ++ '-' :: (ms ++ '-' :: (ds ++ rest))
        ∧ Text.IsRun 4 ys y ∧ Text.IsRun 2 ms m ∧ Text.IsRun 2 ds d := by
  unfold takeDate
  simp only [Option.bind_eq_bind, Option.bind_eq_some_iff, Option.pure_def, Prod.exists,
    Text.takeDigits_eq_some_iff, Text.takeChar_eq_some_iff]
  constructor
  · rintro ⟨y', r₁, ⟨ys, rfl, hys⟩, r₂, rfl, m', r₃, ⟨ms, rfl, hms⟩, r₄, rfl, d', r₅,
      ⟨ds, rfl, hds⟩, heq⟩
    simp only [Option.some.injEq, Prod.mk.injEq] at heq
    obtain ⟨⟨rfl, rfl, rfl⟩, rfl⟩ := heq
    exact ⟨ys, ms, ds, rfl, hys, hms, hds⟩
  · rintro ⟨ys, ms, ds, rfl, hys, hms, hds⟩
    exact ⟨y, _, ⟨ys, rfl, hys⟩, _, rfl, m, _, ⟨ms, rfl, hms⟩, _, rfl, d, _, ⟨ds, rfl, hds⟩, rfl⟩

/-- The numbers of a day are not too large for the written form. -/
theorem Date.numbers_lt (d : Date) : d.year < 10 ^ 4 ∧ d.month < 10 ^ 2 ∧ d.day < 10 ^ 2 := by
  have hvalid := d.valid
  simp only [isDay, Bool.and_eq_true, decide_eq_true_eq] at hvalid
  have hmonth : daysInMonth d.year d.month ≤ 31 := by
    unfold daysInMonth
    split
    · split <;> decide
    · split <;> decide
  omega

/-- Three numbers name the day that has them. -/
theorem Date.ofParts?_eq_some_iff {y m d : Nat} {date : Date} :
    Date.ofParts? y m d = some date ↔ date.year = y ∧ date.month = m ∧ date.day = d := by
  unfold Date.ofParts?
  constructor
  · intro h
    split at h
    · obtain rfl := Option.some.inj h
      exact ⟨rfl, rfl, rfl⟩
    · cases h
  · rintro ⟨rfl, rfl, rfl⟩
    rw [dif_pos date.valid]

/-- **Reading a day is the inverse of writing it.** -/
theorem Date.ofText?_eq_some_iff {s : String} {d : Date} :
    Date.ofText? s = some d ↔ s = d.text := by
  obtain ⟨hyear, hmonth, hday⟩ := d.numbers_lt
  have htext : d.text.toList = (padded 4 d.year).toList
      ++ '-' :: ((padded 2 d.month).toList ++ '-' :: ((padded 2 d.day).toList ++ [])) := by
    simp [Date.text]
  constructor
  · intro h
    unfold Date.ofText? at h
    split at h
    · next y m day hdate =>
      obtain ⟨rfl, rfl, rfl⟩ := Date.ofParts?_eq_some_iff.mp h
      obtain ⟨ys, ms, ds, hs, hys, hms, hds⟩ := takeDate_eq_some_iff.mp hdate
      -- Each run of digits that was read is the written form of its number.
      rw [← String.toList_inj, htext, hs, toList_padded_of_isRun (by decide) hyear hys,
        toList_padded_of_isRun (by decide) hmonth hms, toList_padded_of_isRun (by decide) hday hds]
    · cases h
  · rintro rfl
    have hdate := takeDate_eq_some_iff.mpr ⟨_, _, _, htext, isRun_padded (by decide) hyear,
      isRun_padded (by decide) hmonth, isRun_padded (by decide) hday⟩
    unfold Date.ofText?
    rw [hdate]
    exact Date.ofParts?_eq_some_iff.mpr ⟨rfl, rfl, rfl⟩

end Calendar

end FrontMatter
