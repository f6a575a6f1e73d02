import FrontMatter.Diagnostic.Draft
import FrontMatter.Proofs.Results
import FrontMatter.Proofs.Tables
import Mathlib.Data.List.Forall2

/-!
# `FrontMatter.Proofs.DraftFields` — the findings that loose fields give

A draft gives at most one finding: the one that holds the values of its fields. A call with named
fields gives one under the same conditions, except that it may name no other fields, has to name
some of them, and shows a file of any type as text.

## Contents

* `Draft.HoldsRest`, `Draft.Gives`, `Draft.Calls`: the finding that fields and calls describe.
* `check_eq_ok_iff`, `checkCall_eq_ok_iff`: it is the one that is given.
* `checkAll_eq_ok_iff`, `exists_of_checkAll_eq_error`: several drafts give all of their findings or
  none.
-/

namespace FrontMatter.Draft

/-! ## The finding of a draft -/

/-- The fields besides the file are valid, and a finding holds their values. -/
structure HoldsRest (d : Draft) (x : Diagnostic) : Prop where
  kind : requiredKind (d.get? "kind") = .ok x.kind
  message : requiredText (d.get? "message") = .ok x.message
  line : optionalInt (d.get? "line") = .ok x.line
  field : optionalText (d.get? "field") = .ok x.field
  suggestion : optionalText (d.get? "suggestion") = .ok x.suggestion

/-- All fields are valid, and a finding holds their values. -/
structure Gives (d : Draft) (x : Diagnostic) : Prop where
  file : requiredText (d.get? "file") = .ok x.file
  rest : d.HoldsRest x

/-- A call names fields only, all that it has to name are there and all are valid, and a finding
holds their values. -/
structure Calls (d : Draft) (x : Diagnostic) : Prop where
  known : ∀ name ∈ d.keys, name ∈ fields
  named : ∀ name ∈ Draft.named, name ∈ d.keys
  file : ∃ v, d.get? "file" = some v ∧ v.text = .ok x.file
  rest : d.HoldsRest x

variable {d : Draft} {x : Diagnostic}

/-- A draft gives the finding that holds the values of its fields. -/
theorem check_eq_ok_iff : d.check = .ok x ↔ d.Gives x := by
  unfold check
  dsimp only
  constructor
  · intro h
    split at h
    · next hfile hkind hmessage hline hfield hsuggestion =>
      obtain rfl := Except.ok.inj h
      exact ⟨hfile, hkind, hmessage, hline, hfield, hsuggestion⟩
    · cases h
  · rintro ⟨hfile, hkind, hmessage, hline, hfield, hsuggestion⟩
    simp only [hfile, hkind, hmessage, hline, hfield, hsuggestion]

/-! ## The finding of a call -/

/-- Setting the file of a draft changes no other field. -/
theorem gives_put_file {file : String} :
    Gives (d.put "file" (.str file)) x ↔ file = x.file ∧ d.HoldsRest x := by
  have hfile : requiredText ((d.put "file" (.str file)).get? "file") = .ok file := by
    rw [Table.get?_put]
    rfl
  have hother : ∀ name : String, name ≠ "file" →
      (d.put "file" (.str file)).get? name = d.get? name := by
    intro name hname
    rw [Table.get?_put, if_neg (by simpa using hname.symm)]
  have hrest : HoldsRest (d.put "file" (.str file)) x ↔ d.HoldsRest x := by
    constructor
    · rintro ⟨hkind, hmessage, hline, hfield, hsuggestion⟩
      rw [hother _ (by decide)] at hkind hmessage hline hfield hsuggestion
      exact ⟨hkind, hmessage, hline, hfield, hsuggestion⟩
    · rintro ⟨hkind, hmessage, hline, hfield, hsuggestion⟩
      constructor <;> rw [hother _ (by decide)] <;> assumption
  constructor
  · rintro ⟨hname, h⟩
    rw [hfile] at hname
    exact ⟨Except.ok.inj hname, hrest.mp h⟩
  · rintro ⟨rfl, h⟩
    exact ⟨hfile, hrest.mpr h⟩

/-- All names of a call are those of fields. -/
theorem unknown?_eq_none_iff : d.unknown? = none ↔ ∀ name ∈ d.keys, name ∈ fields := by
  unfold unknown?
  rw [List.find?_eq_none]
  simp only [Bool.not_eq_true', List.contains_eq_mem, decide_eq_false_iff_not, not_not]

/-- All fields that a call has to name are there. -/
theorem missing_eq_nil_iff :
    (named.filter fun n => !d.holds n) = [] ↔ ∀ name ∈ named, name ∈ d.keys := by
  rw [List.filter_eq_nil_iff]
  simp only [Bool.not_eq_true, Bool.not_eq_false', Table.holds_iff]

/-- A call whose names are those of fields gives the finding that holds their values. -/
theorem checkNamed_eq_ok_iff :
    d.checkNamed = .ok x ↔ (∀ name ∈ named, name ∈ d.keys)
      ∧ (∃ v, d.get? "file" = some v ∧ v.text = .ok x.file) ∧ d.HoldsRest x := by
  rw [← missing_eq_nil_iff]
  unfold checkNamed
  cases hmissing : named.filter fun n => !d.holds n with
  | cons name names => simp
  | nil =>
    -- The file is one of the fields that are named.
    have hholds := missing_eq_nil_iff.mp hmissing "file" (by decide)
    rw [← Table.holds_iff, Table.holds_eq_isSome] at hholds
    obtain ⟨v, hv⟩ := Option.isSome_iff_exists.mp hholds
    simp only [hv, Option.getD_some, Option.some.injEq, exists_eq_left', true_and]
    cases htext : v.text with
    | error e => simp
    | ok file =>
      dsimp only
      cases hcheck : check (d.put "file" (.str file)) with
      | ok y =>
        rw [Except.ok.injEq, Except.ok.injEq, ← gives_put_file, ← check_eq_ok_iff, hcheck,
          Except.ok.injEq]
      | error faults =>
        rw [Except.ok.injEq, ← gives_put_file, ← check_eq_ok_iff, hcheck]
        simp

/-- A call gives the finding that it describes. -/
theorem checkCall_eq_ok_iff : d.checkCall = .ok x ↔ d.Calls x := by
  unfold checkCall
  cases hunknown : d.unknown? with
  | some name =>
    have hnone : ¬ ∀ name ∈ d.keys, name ∈ fields := by
      rw [← unknown?_eq_none_iff, hunknown]
      simp
    constructor
    · intro h
      cases h
    · intro h
      exact absurd h.known hnone
  | none =>
    dsimp only
    rw [checkNamed_eq_ok_iff]
    constructor
    · rintro ⟨hnamed, hfile, hrest⟩
      exact ⟨unknown?_eq_none_iff.mp hunknown, hnamed, hfile, hrest⟩
    · intro h
      exact ⟨h.named, h.file, h.rest⟩

/-! ## Several drafts -/

/-- Several drafts give their findings, one for each. -/
theorem checkAll_eq_ok_iff {ds : List Draft} {xs : List Diagnostic} :
    checkAll ds = .ok xs ↔ List.Forall₂ Gives ds xs := by
  unfold checkAll
  rw [mapM_eq_ok_iff, ← List.forall₂_eq_eq_eq, List.forall₂_map_left_iff,
    List.forall₂_map_right_iff]
  simp only [check_eq_ok_iff]

/-- Where several drafts give no findings, one of them gives none. -/
theorem exists_of_checkAll_eq_error {ds : List Draft} {faults : FieldFaults}
    (h : checkAll ds = .error faults) : ∃ d ∈ ds, ∀ x, ¬ d.Gives x := by
  obtain ⟨before, d, after, rfl, -, hd⟩ := mapM_eq_error_iff.mp h
  refine ⟨d, by simp, fun x hx => ?_⟩
  rw [check_eq_ok_iff.mpr hx] at hd
  cases hd

end FrontMatter.Draft
