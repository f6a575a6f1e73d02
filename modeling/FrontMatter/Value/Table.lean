/-!
# `FrontMatter.Value.Table` — associations in a fixed order

A table lists its keys in the order in which they first came. Setting a key that is there already
changes its value and leaves it in its place.

## Contents

* `Table`, `Entries`: associations, and those whose keys are texts.
* `Table.get?`, `Table.holds`, `Table.keys`: reading.
* `Table.put`, `Table.ofList`: setting one key, and several; `ofList_eq_foldl` relates them.
-/

namespace FrontMatter

/-- Associations in the order in which their keys first came. -/
abbrev Table (κ α : Type) := List (κ × α)

/-- A table whose keys are texts. -/
abbrev Entries (α : Type) := Table String α

namespace Table

variable {κ α : Type} [BEq κ]

/-- The value of a key. -/
@[inline] def get? (t : Table κ α) (k : κ) : Option α :=
  (t.find? fun e => e.1 == k).map (·.2)

/-- Whether a key is there. -/
@[inline] def holds (t : Table κ α) (k : κ) : Bool :=
  t.any fun e => e.1 == k

omit [BEq κ] in
/-- The keys in order. -/
def keys (t : Table κ α) : List κ :=
  t.map (·.1)

/-- Sets a key: a new key goes to the end, an old one keeps its place and takes the new value. -/
def put (t : Table κ α) (k : κ) (v : α) : Table κ α :=
  if t.holds k then t.map fun e => if e.1 == k then (e.1, v) else e else t ++ [(k, v)]

/-- Sets a key of a table whose entries stand last first. -/
@[specialize] def putFront (t : Table κ α) (e : κ × α) : Table κ α :=
  if t.holds e.1 then t.map fun f => if f.1 == e.1 then (f.1, e.2) else f else e :: t

/-- Sets keys one after the other. -/
@[specialize] def ofList (kvs : List (κ × α)) : Table κ α :=
  (kvs.foldl putFront []).reverse

/-- A key is there exactly when it is one of the keys. -/
theorem holds_iff [LawfulBEq κ] (t : Table κ α) (k : κ) : t.holds k = true ↔ k ∈ t.keys := by
  simp [holds, keys]

/-- Setting a key adds it to the keys at the end, if it is new. -/
theorem keys_put [LawfulBEq κ] (t : Table κ α) (k : κ) (v : α) :
    (t.put k v).keys = if t.holds k then t.keys else t.keys ++ [k] := by
  unfold put
  by_cases h : t.holds k = true
  · rw [if_pos h, if_pos h]
    unfold keys
    rw [List.map_map]
    apply List.map_congr_left
    intro e _
    show (if e.1 == k then (e.1, v) else e).1 = e.1
    split <;> rfl
  · rw [if_neg h, if_neg h]
    simp [keys]

/-- Setting a key of the reversed table is setting it in the table. -/
theorem reverse_putFront (t : Table κ α) (e : κ × α) :
    (t.putFront e).reverse = put t.reverse e.1 e.2 := by
  have hholds : holds t.reverse e.1 = t.holds e.1 := by simp [holds]
  unfold putFront put
  rw [hholds]
  split
  · rw [List.map_reverse]
  · rw [List.reverse_cons]

/-- A table of a list is built by setting the keys one after the other. -/
theorem ofList_eq_foldl (kvs : List (κ × α)) :
    ofList kvs = kvs.foldl (fun t e => put t e.1 e.2) [] := by
  have hgen : ∀ (t : Table κ α), (kvs.foldl putFront t).reverse
      = kvs.foldl (fun t e => put t e.1 e.2) t.reverse := by
    induction kvs with
    | nil => intro t; rfl
    | cons e kvs ih =>
      intro t
      rw [List.foldl_cons, List.foldl_cons, ih, reverse_putFront]
  exact hgen []

end Table

end FrontMatter
