import FrontMatter.Diagnostic.Basic
import FrontMatter.Proofs.Results
import FrontMatter.Value.Text

/-!
# `FrontMatter.Proofs.ShownValues` — the values that messages can quote

A message can quote every value but those with a whole number of more than 4300 digits inside. The
line of a finding is a whole number too.

## Contents

* `Value.wholeNumbers`: the whole numbers inside a value.
* `AreShort`, `isOk_intText_iff`, `eq_error_of_not_isOk`: the whole numbers that are written.
* `Diagnostic.HasShortLine`: the findings whose lines are.
* `Value.IsShown`, `Value.isOk_text_iff`: the values that are quoted.
* `isShown_str`, `text_eq_error`: a text is, and what is not shown stops the message.
-/

namespace FrontMatter

/-! ## Whole numbers in values -/

/-- A scalar that is a whole number. -/
def Scalar.wholeNumber? : Scalar → Option Int
  | .int n => some n
  | _ => none

mutual

/-- The whole numbers inside a value. The keys of mappings are texts. -/
def Value.wholeNumbers : Value → List Int
  | .scalar s => s.wholeNumber?.toList
  | .list items => Value.wholeNumbersOfItems items
  | .map entries => Value.wholeNumbersOfEntries entries

/-- The whole numbers inside the items of a list. -/
def Value.wholeNumbersOfItems : List Value → List Int
  | [] => []
  | v :: vs => v.wholeNumbers ++ Value.wholeNumbersOfItems vs

/-- The whole numbers inside the values of a mapping. -/
def Value.wholeNumbersOfEntries : List (String × Value) → List Int
  | [] => []
  | (_, v) :: es => v.wholeNumbers ++ Value.wholeNumbersOfEntries es

end

/-- Whole numbers that do not have more digits than are shown. -/
def AreShort (ns : List Int) : Prop :=
  ∀ n ∈ ns, n.natAbs < Decimal.powerOfTen maxDigits

/-- A value that a message can quote: no whole number inside it has more than 4300 digits. -/
def Value.IsShown (v : Value) : Prop :=
  AreShort v.wholeNumbers

/-- A finding whose line, if it has one, does not have more than 4300 digits. -/
def Diagnostic.HasShortLine (d : Diagnostic) : Prop :=
  AreShort d.line.toList

/-! ## Quoting -/

/-- Numbers in two parts of a value are short if those in each part are. -/
theorem areShort_append {ms ns : List Int} : AreShort (ms ++ ns) ↔ AreShort ms ∧ AreShort ns := by
  simp [AreShort, or_imp, forall_and]

/-- A whole number is written unless it has too many digits. -/
theorem isOk_intText_iff (n : Int) : IsOk (intText n) ↔ AreShort [n] := by
  have hshort : AreShort [n] ↔ n.natAbs < Decimal.powerOfTen maxDigits := by
    simp only [AreShort, List.mem_singleton, forall_eq]
  rw [hshort]
  unfold intText
  split
  · next hlt => exact iff_of_true (isOk_ok _) hlt
  · next hno =>
    refine iff_of_false ?_ hno
    rintro ⟨t, ht⟩
    cases ht

/-- There is one refusal only. -/
theorem eq_error_of_not_isOk {α : Type} {x : Except TooLong α} (h : ¬ IsOk x) : x = .error .mk := by
  cases x with
  | ok a => exact absurd (isOk_ok a) h
  | error e => rfl

/-- A scalar by itself is shown unless it is a whole number that is too long. -/
theorem Scalar.isOk_text_iff (s : Scalar) : IsOk s.text ↔ AreShort s.wholeNumber?.toList := by
  cases s with
  | int n => exact isOk_intText_iff n
  | _ => exact iff_of_true (isOk_ok _) (by simp [Scalar.wholeNumber?, AreShort])

/-- A scalar inside a value is shown unless it is a whole number that is too long. -/
theorem Scalar.isOk_inner_iff (s : Scalar) : IsOk s.inner ↔ AreShort s.wholeNumber?.toList := by
  cases s with
  | str t => exact iff_of_true (isOk_ok _) (by simp [Scalar.wholeNumber?, AreShort])
  | date d => exact iff_of_true (isOk_ok _) (by simp [Scalar.wholeNumber?, AreShort])
  | dateTime t => exact iff_of_true (isOk_ok _) (by simp [Scalar.wholeNumber?, AreShort])
  | null => exact Scalar.isOk_text_iff .null
  | bool b => exact Scalar.isOk_text_iff (.bool b)
  | int n => exact Scalar.isOk_text_iff (.int n)
  | float x => exact Scalar.isOk_text_iff (.float x)

mutual

/-- A value inside another one is shown unless it holds a whole number that is too long. -/
theorem Value.isOk_inner_iff (v : Value) : IsOk v.inner ↔ v.IsShown := by
  cases v with
  | scalar s => exact s.isOk_inner_iff
  | list items =>
    unfold Value.inner
    rw [isOk_map_iff]
    exact Value.isOk_innerItems_iff items
  | map entries =>
    unfold Value.inner
    rw [isOk_map_iff]
    exact Value.isOk_innerEntries_iff entries

/-- The items of a list are shown unless one of them holds such a number. -/
theorem Value.isOk_innerItems_iff (items : List Value) :
    IsOk (Value.innerItems items) ↔ AreShort (Value.wholeNumbersOfItems items) := by
  cases items with
  | nil => exact iff_of_true (isOk_ok _) (by simp [Value.wholeNumbersOfItems, AreShort])
  | cons v vs =>
    unfold Value.innerItems Value.wholeNumbersOfItems
    rw [areShort_append, ← Value.isOk_innerItems_iff vs]
    rw [isOk_bind_iff fun text => isOk_map_iff, Value.isOk_inner_iff v]
    rfl

/-- The values of a mapping are shown unless one of them holds such a number. -/
theorem Value.isOk_innerEntries_iff (entries : List (String × Value)) :
    IsOk (Value.innerEntries entries) ↔ AreShort (Value.wholeNumbersOfEntries entries) := by
  cases entries with
  | nil => exact iff_of_true (isOk_ok _) (by simp [Value.wholeNumbersOfEntries, AreShort])
  | cons e es =>
    obtain ⟨k, v⟩ := e
    unfold Value.innerEntries Value.wholeNumbersOfEntries
    rw [areShort_append, ← Value.isOk_innerEntries_iff es]
    rw [isOk_bind_iff fun text => isOk_map_iff, Value.isOk_inner_iff v]
    rfl

end

/-- **A message quotes a value unless it holds a whole number that is too long.** -/
theorem Value.isOk_text_iff (v : Value) : IsOk v.text ↔ v.IsShown := by
  cases v with
  | scalar s => exact s.isOk_text_iff
  | list items => exact Value.isOk_inner_iff (.list items)
  | map entries => exact Value.isOk_inner_iff (.map entries)

/-- A text can be quoted. -/
theorem isShown_str (t : String) : (Value.str t).IsShown :=
  (Value.isOk_text_iff _).mp (isOk_ok t)

/-- A value that cannot be quoted stops a message. -/
theorem text_eq_error {v : Value} (h : ¬ v.IsShown) : v.text = .error .mk := by
  rw [← v.isOk_text_iff] at h
  exact eq_error_of_not_isOk h

end FrontMatter
