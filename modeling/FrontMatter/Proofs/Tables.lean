import FrontMatter.Value.Table

/-!
# `FrontMatter.Proofs.Tables` — reading a table after it has been changed

## Contents

* `mem_of_get?`, `holds_eq_isSome`: what a key that is found says about the entries.
* `get?_eq_some_iff`: without a repeated key, the entries are what is found.
* `get?_put`, `put_append`: the value of a key after a key has been set, and where it is set.
* `mem_of_mem_put`, `mem_of_mem_ofList`: where the entries of a table come from.
* `nodup_keys_ofList`: no key of a table that is built has two values.
* `get?_ofList`: the value of a key in a table that is built is the last one.
* `firsts`: the first entry of each key, with `get?_firsts`, `keys_firsts` and
  `firsts_append_singleton`.
-/

namespace FrontMatter.Table

variable {κ α : Type} [BEq κ] [LawfulBEq κ]

/-- A value that is found belongs to an entry with its key. -/
theorem mem_of_get? {t : Table κ α} {k : κ} {v : α} (h : t.get? k = some v) : (k, v) ∈ t := by
  obtain ⟨e, he, rfl⟩ := Option.map_eq_some_iff.mp h
  have hkey : e.1 = k := by simpa using List.find?_some he
  rw [← hkey]
  exact List.mem_of_find?_eq_some he

omit [LawfulBEq κ] in
/-- A key is there exactly when it has a value. -/
theorem holds_eq_isSome (t : Table κ α) (k : κ) : t.holds k = (t.get? k).isSome := by
  unfold holds get?
  rw [Option.isSome_map, List.isSome_find?]

omit [LawfulBEq κ] in
/-- The value of a key is looked for from the front. -/
theorem get?_cons (e : κ × α) (t : Table κ α) (k : κ) :
    get? (e :: t) k = if e.1 == k then some e.2 else t.get? k := by
  unfold get?
  rw [List.find?_cons]
  cases e.1 == k <;> rfl

/-- Where no key is repeated, a key has the values of its entries. -/
theorem get?_eq_some_iff {t : Table κ α} (h : t.keys.Nodup) {k : κ} {v : α} :
    t.get? k = some v ↔ (k, v) ∈ t := by
  refine ⟨mem_of_get?, fun hmem => ?_⟩
  induction t with
  | nil => cases hmem
  | cons e t ih =>
    obtain ⟨hnew, hrest⟩ := List.nodup_cons.mp h
    rw [get?_cons]
    rcases List.mem_cons.mp hmem with rfl | hmem
    · rw [if_pos BEq.rfl]
    · -- The first entry has another key, since the key comes again.
      have hother : e.1 ≠ k := by
        rintro rfl
        exact hnew (List.mem_map.mpr ⟨_, hmem, rfl⟩)
      rw [if_neg (by simpa using hother)]
      exact ih hrest hmem

omit [LawfulBEq κ] in
/-- Where all values are changed in one way, so is the value of a key. -/
theorem get?_map_values {β : Type} (f : α → β) (t : Table κ α) (k : κ) :
    get? (t.map fun e => (e.1, f e.2)) k = (t.get? k).map f := by
  unfold get?
  rw [List.find?_map, Option.map_map, Option.map_map]
  rfl

/-- Changing the value of a key that is there changes no other value. -/
theorem get?_map_put (t : Table κ α) (k j : κ) (v : α) :
    get? (t.map fun e => if e.1 == k then (e.1, v) else e) j
      = if k == j && t.holds k then some v else t.get? j := by
  induction t with
  | nil => simp [get?, holds]
  | cons e t ih =>
    have hholds : holds (e :: t) k = (e.1 == k || holds t k) := List.any_cons
    rw [List.map_cons, get?_cons, get?_cons, ih, hholds]
    -- Only where the first entry has the key that is set does its value change.
    by_cases hek : e.1 = k
    · subst hek
      by_cases hej : e.1 = j
      · simp [hej]
      · grind
    · grind

/-- Setting a key changes its value and no other one. -/
theorem get?_put (t : Table κ α) (k j : κ) (v : α) :
    (t.put k v).get? j = if k == j then some v else t.get? j := by
  unfold put
  split
  · next hk => rw [get?_map_put, hk, Bool.and_true]
  · next hk =>
    have hnone : t.get? k = none := by
      rw [holds_eq_isSome] at hk
      simpa using hk
    -- The new entry stands at the end, so it is found only if no entry before it has its key.
    by_cases hkj : k = j
    · subst hkj
      unfold get? at hnone ⊢
      rw [Option.map_eq_none_iff] at hnone
      simp [List.find?_append, hnone]
    · unfold get?
      simp [List.find?_append, hkj]

omit [LawfulBEq κ] in
/-- A key that the first part of a table does not have is set in the second part. -/
theorem put_append {t : Table κ α} {k : κ} (h : t.holds k = false) (u : Table κ α) (v : α) :
    put (t ++ u) k v = t ++ u.put k v := by
  have hother : ∀ e ∈ t, (e.1 == k) = false := by
    intro e he
    unfold holds at h
    rw [List.any_eq_false] at h
    exact Bool.eq_false_iff.mpr (h e he)
  have hholds : holds (t ++ u) k = u.holds k := by
    unfold holds at h ⊢
    rw [List.any_append, h, Bool.false_or]
  unfold put
  rw [hholds]
  by_cases hu : u.holds k = true
  · have hkeep : (t.map fun e => if e.1 == k then (e.1, v) else e) = t := by
      refine (List.map_congr_left fun e he => ?_).trans (List.map_id t)
      show (if e.1 == k then (e.1, v) else e) = e
      rw [if_neg (Bool.eq_false_iff.mp (hother e he))]
    rw [if_pos hu, if_pos hu, List.map_append, hkeep]
  · rw [if_neg hu, if_neg hu, List.append_assoc]

/-- An entry of a table after a key has been set is an old one or the one that has been set. -/
theorem mem_of_mem_put {t : Table κ α} {k : κ} {v : α} {e : κ × α} (h : e ∈ t.put k v) :
    e ∈ t ∨ e = (k, v) := by
  unfold put at h
  split at h
  · obtain ⟨f, hf, rfl⟩ := List.mem_map.mp h
    split
    · next hkey => exact .inr (Prod.ext (beq_iff_eq.mp hkey) rfl)
    · exact .inl hf
  · rcases List.mem_append.mp h with h | h
    · exact .inl h
    · exact .inr (List.mem_singleton.mp h)

/-- The entries of a table that is built from a list are in the list. -/
theorem mem_of_mem_ofList {kvs : List (κ × α)} {e : κ × α} (h : e ∈ ofList kvs) : e ∈ kvs := by
  rw [ofList_eq_foldl] at h
  revert e
  apply List.foldlRecOn (motive := fun t => ∀ e ∈ t, e ∈ kvs) kvs
  · intro e he
    cases he
  · intro t ht f hf e he
    rcases mem_of_mem_put he with hold | rfl
    · exact ht e hold
    · exact hf

/-- Setting a key gives no key a second value. -/
theorem nodup_keys_put {t : Table κ α} (h : t.keys.Nodup) (k : κ) (v : α) :
    (t.put k v).keys.Nodup := by
  rw [keys_put]
  split
  · exact h
  · next hk =>
    rw [holds_iff] at hk
    rw [List.nodup_append]
    refine ⟨h, by simp, ?_⟩
    rintro a ha b hb rfl
    exact hk (List.mem_singleton.mp hb ▸ ha)

/-- No key of a table that is built from a list has two values. -/
theorem nodup_keys_ofList (kvs : List (κ × α)) : (ofList kvs).keys.Nodup := by
  rw [ofList_eq_foldl]
  apply List.foldlRecOn (motive := fun t => (keys t).Nodup) kvs
  · exact List.nodup_nil
  · intro t ht e _
    exact nodup_keys_put ht e.1 e.2

/-- In a table that is built from a list a key has its last value. -/
theorem get?_ofList (kvs : List (κ × α)) (k : κ) : (ofList kvs).get? k = get? kvs.reverse k := by
  rw [ofList_eq_foldl]
  -- For any table to start from: its value counts where the list has none.
  have hgen : ∀ t : Table κ α, (kvs.foldl (fun t e => put t e.1 e.2) t).get? k
      = (get? kvs.reverse k).or (t.get? k) := by
    induction kvs with
    | nil => intro t; rfl
    | cons e kvs ih =>
      intro t
      have hlast : get? (e :: kvs).reverse k = (get? kvs.reverse k).or (get? [e] k) := by
        rw [List.reverse_cons]
        unfold get?
        rw [List.find?_append, Option.map_or]
      rw [List.foldl_cons, ih, get?_put, hlast, get?_cons]
      cases get? kvs.reverse k <;> cases e.1 == k <;> rfl
  rw [hgen []]
  exact Option.or_none

/-- A list without repeated keys is the table that is built from it. -/
theorem ofList_of_nodup {kvs : List (κ × α)} (h : (keys kvs).Nodup) : ofList kvs = kvs := by
  rw [ofList_eq_foldl]
  have hgen : ∀ t : Table κ α, (keys (t ++ kvs)).Nodup →
      kvs.foldl (fun t e => put t e.1 e.2) t = t ++ kvs := by
    clear h
    induction kvs with
    | nil => intro t _; exact t.append_nil.symm
    | cons e kvs ih =>
      intro t ht
      have hnew : ¬ t.holds e.1 = true := by
        rw [holds_iff]
        unfold keys at ht ⊢
        rw [List.map_append, List.nodup_append] at ht
        intro hmem
        exact ht.2.2 _ hmem _ List.mem_cons_self rfl
      have hput : t.put e.1 e.2 = t ++ [e] := by
        unfold put
        rw [if_neg hnew]
      rw [List.foldl_cons, hput, ih, List.append_assoc]
      · rfl
      · rw [List.append_assoc]
        exact ht
  exact hgen [] h

/-! ## The first entry of each key -/

/-- The entries of a list, the first one of each key only. -/
def firsts (kvs : List (κ × α)) : Table κ α :=
  kvs.eraseDupsBy fun e f => e.1 == f.1

omit [LawfulBEq κ] in
/-- The first entry stands before those of the entries after it that have another key. -/
theorem firsts_cons (e : κ × α) (kvs : List (κ × α)) :
    firsts (e :: kvs) = e :: firsts (kvs.filter fun f => !(f.1 == e.1)) := by
  unfold firsts
  rw [List.eraseDupsBy_cons]
  simp

omit [LawfulBEq κ] in
/-- What holds of the empty list, and of a list if it holds of the entries after the first that have
another key, holds of every list. -/
@[elab_as_elim]
theorem firsts_induction {motive : List (κ × α) → Prop} (nil : motive [])
    (cons : ∀ e kvs, motive (kvs.filter fun f => !(f.1 == e.1)) → motive (e :: kvs))
    (kvs : List (κ × α)) : motive kvs := by
  induction hlength : kvs.length using Nat.strongRecOn generalizing kvs with
  | ind n ih =>
    cases kvs with
    | nil => exact nil
    | cons e kvs =>
      refine cons e kvs (ih _ ?_ _ rfl)
      rw [← hlength, List.length_cons]
      exact Nat.lt_succ_of_le (List.length_filter_le _ _)

/-- Of each key the first value stays. -/
theorem get?_firsts (kvs : List (κ × α)) (k : κ) : (firsts kvs).get? k = get? kvs k := by
  induction kvs using firsts_induction with
  | nil => rfl
  | cons e kvs ih =>
    rw [firsts_cons, get?_cons, get?_cons, ih]
    by_cases hek : e.1 = k
    · simp [hek]
    · rw [if_neg (by simpa using hek), if_neg (by simpa using hek)]
      unfold get?
      rw [List.find?_filter]
      congr 2
      funext f
      by_cases hfk : f.1 = k
      · have hfe : ¬ k = e.1 := fun h => hek h.symm
        simp [hfk, hfe]
      · simp [hfk]

omit [LawfulBEq κ] in
/-- The keys are the keys of the list, each where it first stands. -/
theorem keys_firsts (kvs : List (κ × α)) : (firsts kvs).keys = (keys kvs).eraseDups := by
  induction kvs using firsts_induction with
  | nil => rfl
  | cons e kvs ih =>
    have hkeys : keys (kvs.filter fun f => !(f.1 == e.1))
        = (keys kvs).filter fun k => !(k == e.1) := by
      unfold keys
      rw [List.filter_map]
      rfl
    have hcons : keys (e :: kvs) = e.1 :: keys kvs := rfl
    rw [firsts_cons, hcons, List.eraseDups_cons, ← hkeys, ← ih]
    rfl

/-- An entry after the others stays if they do not have its key. -/
theorem firsts_append_singleton (kvs : List (κ × α)) (e : κ × α) :
    firsts (kvs ++ [e]) = if holds kvs e.1 then firsts kvs else firsts kvs ++ [e] := by
  induction kvs using firsts_induction with
  | nil => rfl
  | cons f kvs ih =>
    rw [List.cons_append, firsts_cons, firsts_cons, List.filter_append]
    by_cases hfe : e.1 = f.1
    · have hholds : holds (f :: kvs) e.1 = true := by simp [holds, hfe]
      rw [hholds, if_pos rfl]
      simp [hfe]
    · -- The entry is not dropped together with those that have the key of the first one.
      have hholds : holds (kvs.filter fun g => !(g.1 == f.1)) e.1 = holds (f :: kvs) e.1 := by
        rw [Bool.eq_iff_iff, holds_iff, holds_iff]
        have hef : ¬ f.1 = e.1 := fun h => hfe h.symm
        simp only [keys, List.mem_map, List.mem_filter, List.mem_cons]
        grind
      have hkept : [e].filter (fun g => !(g.1 == f.1)) = [e] := by simp [hfe]
      rw [hkept, ih, hholds]
      split
      · rfl
      · rfl

omit [LawfulBEq κ] in
/-- There are no more of them than entries. -/
theorem length_firsts_le (kvs : List (κ × α)) : (firsts kvs).length ≤ kvs.length := by
  induction kvs using firsts_induction with
  | nil => exact Nat.le_refl 0
  | cons e kvs ih =>
    rw [firsts_cons, List.length_cons, List.length_cons]
    exact Nat.succ_le_succ (Nat.le_trans ih (List.length_filter_le _ kvs))

/-- No key has two of them. -/
theorem nodup_keys_firsts (kvs : List (κ × α)) : (firsts kvs).keys.Nodup := by
  induction kvs using firsts_induction with
  | nil => exact List.nodup_nil
  | cons e kvs ih =>
    rw [firsts_cons]
    refine List.nodup_cons.mpr ⟨?_, ih⟩
    show e.1 ∉ (firsts _).keys
    rw [keys_firsts, List.mem_eraseDups]
    intro hmem
    obtain ⟨f, hf, hkey⟩ := List.mem_map.mp hmem
    have hother := (List.mem_filter.mp hf).2
    simp [hkey] at hother

end FrontMatter.Table
