/-!
# `FrontMatter.Proofs.Results` — computations that may fail

A computation gives a result or tells why there is none. Where one follows another, the first that
fails ends both; where one is made for each element of a list, the first that fails ends them all.

## Contents

* `exists_of_bind_eq_ok`, `exists_of_map_eq_ok`: the steps of a computation that gives a result.
* `IsOk`, `isOk_bind_iff`, `isOk_map_iff`: the computations that give a result.
* `mapM_cons_eq`, `mapM_eq_ok_iff`, `mapM_eq_error_iff`: the elements of a list.
-/

namespace FrontMatter

/-! ## One after the other -/

/-- A computation that goes on after a first one and gives a result has one from the first. -/
theorem exists_of_bind_eq_ok {ε α β : Type} {x : Except ε α} {f : α → Except ε β} {b : β}
    (h : (x >>= f) = .ok b) : ∃ a, x = .ok a ∧ f a = .ok b := by
  cases x with
  | error e => cases h
  | ok a => exact ⟨a, rfl, h⟩

/-- Where all results of a computation are changed, its result is a changed one. -/
theorem exists_of_map_eq_ok {ε α β : Type} {x : Except ε α} {f : α → β} {b : β}
    (h : x.map f = .ok b) : ∃ a, x = .ok a ∧ f a = b := by
  cases x with
  | error e => cases h
  | ok a => exact ⟨a, rfl, Except.ok.inj h⟩

/-- A computation that gives a result. -/
def IsOk {ε α : Type} (x : Except ε α) : Prop :=
  ∃ a, x = .ok a

/-- What gives a result. -/
theorem isOk_ok {ε α : Type} (a : α) : IsOk (.ok a : Except ε α) :=
  ⟨a, rfl⟩

/-- Whether there is a result can be computed. -/
theorem isOk_eq_true_iff {ε α : Type} {x : Except ε α} : x.isOk = true ↔ IsOk x := by
  cases x with
  | ok a => exact iff_of_true rfl (isOk_ok a)
  | error e => exact iff_of_false Bool.false_ne_true (by rintro ⟨a, ⟨⟩⟩)

/-- A computation that goes on after a first one gives a result if both parts do. -/
theorem isOk_bind_iff {ε α β : Type} {x : Except ε α} {f : α → Except ε β} {p : Prop}
    (hf : ∀ a, IsOk (f a) ↔ p) : IsOk (x >>= f) ↔ IsOk x ∧ p := by
  cases x with
  | error e =>
    constructor
    · rintro ⟨b, hb⟩
      cases hb
    · rintro ⟨⟨a, ha⟩, -⟩
      cases ha
  | ok a =>
    rw [iff_true_intro (isOk_ok a), true_and]
    exact hf a

/-- A computation whose result is changed gives a result as before. -/
theorem isOk_map_iff {ε α β : Type} {x : Except ε α} {f : α → β} :
    IsOk (x >>= fun a => pure (f a)) ↔ IsOk x := by
  have hf : ∀ a, IsOk (pure (f a) : Except ε β) ↔ True := fun a => iff_true_intro (isOk_ok (f a))
  rw [isOk_bind_iff hf, and_true]

/-! ## The elements of a list -/

variable {ε α β : Type} {f : α → Except ε β}

/-- The first element comes before the others. -/
theorem mapM_cons_eq (f : α → Except ε β) (x : α) (xs : List α) :
    (x :: xs).mapM f = (f x).bind fun y => (xs.mapM f).map (y :: ·) := by
  rw [List.mapM_cons]
  cases f x with
  | error e => rfl
  | ok y => cases xs.mapM f <;> rfl

/-- All results are given exactly when each element gives its own. -/
theorem mapM_eq_ok_iff {xs : List α} {ys : List β} :
    xs.mapM f = .ok ys ↔ xs.map f = ys.map .ok := by
  induction xs generalizing ys with
  | nil =>
    show Except.ok [] = Except.ok ys ↔ [] = ys.map Except.ok
    rw [Except.ok.injEq, eq_comm, eq_comm (a := []), List.map_eq_nil_iff]
  | cons x xs ih =>
    rw [mapM_cons_eq, List.map_cons]
    cases ys with
    | nil => cases f x <;> cases xs.mapM f <;> simp [Except.bind, Except.map]
    | cons y ys =>
      rw [List.map_cons, List.cons.injEq, ← ih]
      cases f x <;> cases xs.mapM f <;> simp [Except.bind, Except.map]

/-- The results are not given exactly when there is a first element that gives none; it tells
why. -/
theorem mapM_eq_error_iff {xs : List α} {e : ε} :
    xs.mapM f = .error e ↔ ∃ before x after, xs = before ++ x :: after
      ∧ (∀ y ∈ before, ∃ z, f y = .ok z) ∧ f x = .error e := by
  constructor
  · intro h
    induction xs with
    | nil => cases h
    | cons x xs ih =>
      rw [mapM_cons_eq] at h
      cases hx : f x with
      | error first =>
        rw [hx] at h
        obtain rfl : first = e := Except.error.inj h
        exact ⟨[], x, xs, rfl, by simp, hx⟩
      | ok y =>
        rw [hx] at h
        cases hxs : xs.mapM f with
        | error later =>
          rw [hxs] at h
          obtain ⟨before, z, after, rfl, hbefore, hz⟩ := ih (hxs.trans h)
          exact ⟨x :: before, z, after, rfl, List.forall_mem_cons.mpr ⟨⟨y, hx⟩, hbefore⟩, hz⟩
        | ok ys =>
          rw [hxs] at h
          cases h
  · rintro ⟨before, x, after, rfl, hbefore, hx⟩
    induction before with
    | nil =>
      rw [List.nil_append, mapM_cons_eq, hx]
      rfl
    | cons y before ih =>
      obtain ⟨⟨z, hz⟩, hrest⟩ := List.forall_mem_cons.mp hbefore
      rw [List.cons_append, mapM_cons_eq, hz, ih hrest]
      rfl

end FrontMatter
