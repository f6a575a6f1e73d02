import FrontMatter.Proofs.PlainValues
import FrontMatter.Proofs.StoredEntries
import FrontMatter.Yaml.Data.Build

/-!
# `FrontMatter.Proofs.DataParts` — the parts of data, and which of them can be keys

Data holds values and keys, at every depth. Data that is built has no keys but those that can be
looked up, for each is looked up when its mapping is filled: lists and mappings are none of them,
but bytes and tuples are.

## Contents

* `Data.isLeaf`, `isLeaf_of_buildScalar?`, `isLeaf_of_build`: what is made of scalars.
* `Role`, `Data.HasPart`: the values and the keys in data, at every depth.
* `Data.HasHashableKeys`, `IsSound`: data and entries whose keys can be looked up.
* `hasHashableKeys_of_build`: all keys in data that is built can.
* `Data.isListed`, `exists_of_not_isListed_key`: whether a part may stand where it stands.
-/

namespace FrontMatter.Yaml

/-! ## Scalars -/

/-- Whether data is what a scalar can be made. -/
def Data.isLeaf : Data → Bool
  | .scalar _ | .notANumber | .bytes _ => true
  | _ => false

/-- The tags of scalars make nothing else. -/
theorem isLeaf_of_buildScalar? {v : Version} {fuel : Nat} {n : Node} {d : Data}
    (h : buildScalar? v fuel n = some (.ok d)) : d.isLeaf = true := by
  unfold buildScalar? at h
  dsimp only at h
  split at h
  · obtain ⟨a, -, rfl⟩ := exists_of_map_eq_ok (Option.some.inj h)
    rfl
  · obtain ⟨text, -, hd⟩ := exists_of_bind_eq_ok (Option.some.inj h)
    unfold buildBool at hd
    dsimp only at hd
    split at hd
    · cases hd
      rfl
    · cases hd
  · obtain ⟨text, -, hd⟩ := exists_of_bind_eq_ok (Option.some.inj h)
    obtain ⟨a, -, rfl⟩ := exists_of_map_eq_ok hd
    rfl
  · obtain ⟨text, -, hd⟩ := exists_of_bind_eq_ok (Option.some.inj h)
    obtain ⟨x, -, hd⟩ := exists_of_bind_eq_ok hd
    cases x with
    | notANumber =>
      cases hd
      rfl
    | double x =>
      cases hd
      rfl
  · obtain ⟨text, -, hd⟩ := exists_of_bind_eq_ok (Option.some.inj h)
    unfold buildBinary at hd
    split at hd
    · cases hd
    · split at hd
      · cases hd
        rfl
      · cases hd
  · have hd := Option.some.inj h
    unfold buildTimestamp at hd
    dsimp only at hd
    split at hd
    · cases hd
    · split at hd
      · obtain ⟨a, -, rfl⟩ := exists_of_map_eq_ok hd
        rfl
      · obtain ⟨a, -, rfl⟩ := exists_of_map_eq_ok hd
        rfl
  · obtain ⟨a, -, rfl⟩ := exists_of_map_eq_ok (Option.some.inj h)
    rfl
  · cases h

/-- What a scalar can be made can be looked up. -/
theorem unhashable?_of_isLeaf {d : Data} (h : d.isLeaf = true) : d.unhashable? = none := by
  cases d with
  | scalar s => rfl
  | notANumber => rfl
  | bytes bs => rfl
  | _ => cases h

/-! ## Parts -/

/-- Where a part of data stands: as a value, which the root and the items of lists are too, or as
the key of a mapping. -/
inductive Role
  | value
  | key
  deriving Repr, DecidableEq

/-- A part of data, at any depth, in its role. What stands inside tuples, sets and keys is left out:
these are turned down as a whole, or not at all. -/
inductive Data.HasPart : Data → Role → Data → Prop
  | root (d : Data) : HasPart d .value d
  | item {items : List Data} {i x : Data} {r : Role} (mem : i ∈ items) (below : HasPart i r x) :
      HasPart (.list items) r x
  | value {ordered : Bool} {entries : List (Data × Data)} {e : Data × Data} {x : Data} {r : Role}
      (mem : e ∈ entries) (below : HasPart e.2 r x) : HasPart (.map ordered entries) r x
  | key {ordered : Bool} {entries : List (Data × Data)} {e : Data × Data} (mem : e ∈ entries) :
      HasPart (.map ordered entries) .key e.1

/-! ## Keys that can be looked up -/

/-- Every key in data, at any depth, can be looked up. -/
def Data.HasHashableKeys (d : Data) : Prop :=
  ∀ k, d.HasPart .key k → k.unhashable? = none

/-- An entry whose key can be looked up, and so can all keys in its value. -/
structure IsSound (e : Data × Data) : Prop where
  key : e.1.unhashable? = none
  value : e.2.HasHashableKeys

/-- What a scalar can be made has no keys. -/
theorem hasHashableKeys_of_isLeaf {d : Data} (h : d.isLeaf = true) : d.HasHashableKeys := by
  intro k hk
  cases hk with
  | item mem below => cases h
  | value mem below => cases h
  | key mem => cases h

/-- What stands inside a tuple is left out. -/
theorem hasHashableKeys_tuple (items : List Data) : Data.HasHashableKeys (.tuple items) := by
  intro k hk
  cases hk

/-- What stands inside a set is left out. -/
theorem hasHashableKeys_set (members : List Data) : Data.HasHashableKeys (.set members) := by
  intro k hk
  cases hk

/-- The keys in a list are those in its items. -/
theorem hasHashableKeys_list {items : List Data} (h : ∀ i ∈ items, i.HasHashableKeys) :
    Data.HasHashableKeys (.list items) := by
  intro k hk
  cases hk with
  | item mem below => exact h _ mem k below

/-- The keys in a mapping are its own, and those in its values. -/
theorem hasHashableKeys_map {ordered : Bool} {entries : List (Data × Data)}
    (h : ∀ e ∈ entries, IsSound e) : Data.HasHashableKeys (.map ordered entries) := by
  intro k hk
  cases hk with
  | value mem below => exact (h _ mem).value k below
  | key mem => exact (h _ mem).key

/-! ## Results -/

section Outcomes

variable {α β γ : Type}

/-- Where a result is changed, there was one before. -/
theorem Outcome.exists_of_map_eq_ok {o : Outcome α} {f : α → β} {b : β} (h : o.map f = .ok b) :
    ∃ a, o = .ok a ∧ f a = b := by
  cases o with
  | fault l e => cases h
  | ok a => exact ⟨a, rfl, Outcome.ok.inj h⟩

/-- A result that passes a check is there, and the check finds nothing. -/
theorem Outcome.of_check_eq_ok {o : Outcome α} {fault? : Option Fault} {a : α}
    (h : o.check fault? = .ok a) : fault? = none ∧ o = .ok a := by
  cases fault? with
  | none => exact ⟨rfl, h⟩
  | some f =>
    obtain ⟨p, hp, -⟩ := Outcome.exists_of_map_eq_ok h
    cases o with
    | ok b => cases hp
    | fault l e =>
      unfold Outcome.both at hp
      dsimp only at hp
      split at hp <;> cases hp

/-- A result is the same one level further down. -/
theorem Outcome.of_level_eq_ok {deep : Bool} {o : Outcome α} {a : α}
    (h : (if deep then o else o.below) = .ok a) : o = .ok a := by
  cases o with
  | ok b => cases deep <;> exact h
  | fault l e => cases deep <;> cases h

/-- Each of several results comes from its part. -/
theorem Outcome.exists_of_mem_all {items : List γ} {f : γ → Outcome α} {as : List α}
    (h : Outcome.all (items.map f) = .ok as) {a : α} (ha : a ∈ as) : ∃ i, f i = .ok a := by
  have hmem : Outcome.ok a ∈ items.map f := by
    rw [Outcome.all_eq_ok_iff.mp h]
    exact List.mem_map_of_mem ha
  obtain ⟨i, -, hi⟩ := List.mem_map.mp hmem
  exact ⟨i, hi⟩

end Outcomes

/-! ## Entries that are built -/

section Entries

variable {key value part : Node → Outcome Data}

/-- The key of an entry that is built can be looked up. -/
theorem isSound_of_buildEntry (hvalue : ∀ n d, value n = .ok d → d.HasHashableKeys)
    {e : Node × Node} {p : Data × Data} (h : buildEntry key value e = .ok p) : IsSound p := by
  unfold buildEntry at h
  split at h
  · cases h
  · next k hk =>
    split at h
    · cases h
    · obtain ⟨d, hchecked, rfl⟩ := Outcome.exists_of_map_eq_ok h
      obtain ⟨hhash, hd⟩ := Outcome.of_check_eq_ok hchecked
      exact ⟨Option.map_eq_none_iff.mp hhash, hvalue e.2 d hd⟩

/-- Entries stay sound when a sound one is added, unless its key is there. -/
theorem isSound_of_mem_putNew {entries : List (Data × Data)} (h : ∀ e ∈ entries, IsSound e)
    {f : Data × Data} (hf : IsSound f) : ∀ e ∈ putNew entries f, IsSound e := by
  unfold putNew
  split
  · exact h
  · exact List.forall_mem_cons.mpr ⟨hf, h⟩

/-- So they do when the value of a sound one replaces that of its key. -/
theorem isSound_of_mem_putLast {entries : List (Data × Data)} (h : ∀ e ∈ entries, IsSound e)
    {f : Data × Data} (hf : IsSound f) : ∀ e ∈ putLast entries f, IsSound e := by
  unfold putLast
  split
  · intro e he
    obtain ⟨g, hg, rfl⟩ := List.mem_map.mp he
    split
    · exact ⟨(h g hg).key, hf.value⟩
    · exact h g hg
  · exact List.forall_mem_cons.mpr ⟨hf, h⟩

/-- The entries of a mapping that is built are sound. -/
theorem isSound_of_buildEntries (hvalue : ∀ n d, value n = .ok d → d.HasHashableKeys)
    {f : Flattened} {es : List (Data × Data)} (h : buildEntries key value f = .ok es) :
    ∀ e ∈ es, IsSound e := by
  obtain ⟨built, hall, rfl⟩ := Outcome.exists_of_map_eq_ok h
  intro e he
  rw [List.mem_reverse] at he
  revert e
  -- In whichever way the entries are added, those that are there stay sound.
  apply List.foldlRecOn (motive := fun done => ∀ e ∈ done, IsSound e) built
  · intro e he
    cases he
  · intro done hdone b hb
    obtain ⟨n, hn⟩ := Outcome.exists_of_mem_all hall hb
    have hsound := isSound_of_buildEntry hvalue hn
    split
    · exact isSound_of_mem_putNew hdone hsound
    · exact isSound_of_mem_putLast hdone hsound

/-- So they are if its merge keys are resolved before. -/
theorem isSound_of_buildMapping (hvalue : ∀ n d, value n = .ok d → d.HasHashableKeys)
    {fuel : Nat} {n : Node} {es : List (Data × Data)}
    (h : buildMapping fuel key value n = .ok es) : ∀ e ∈ es, IsSound e := by
  unfold buildMapping at h
  split at h
  · split at h
    · exact isSound_of_buildEntries hvalue h
    · cases h
  · cases h

/-- An item of an ordered mapping is sound, as its key is no collection. -/
theorem isSound_of_buildOrderedItem (hpart : ∀ n d, part n = .ok d → d.HasHashableKeys)
    (hleaf : ∀ n d, part n = .ok d → n.tag.collectionName? = none → d.isLeaf = true)
    {seen : List Data} {item : Node} {p : Data × Data}
    (h : buildOrderedItem part seen item = .ok p) : IsSound p := by
  unfold buildOrderedItem at h
  split at h
  · cases h
  · next k v hentry =>
    split at h
    · cases h
    · cases h
    · cases h
    · next d hd hname =>
      split at h
      · cases h
      · obtain ⟨u, hu, rfl⟩ := Outcome.exists_of_map_eq_ok h
        exact ⟨unhashable?_of_isLeaf (hleaf k d hd hname), hpart v u hu⟩

/-- The outcomes of the items are those of single ones, after some keys. -/
theorem exists_of_mem_buildOrderedItems {seen : List Data} {done : List (Outcome (Data × Data))}
    {items : List Node} {o : Outcome (Data × Data)}
    (h : o ∈ buildOrderedItems part seen done items) :
    o ∈ done ∨ ∃ keys, ∃ item ∈ items, o = buildOrderedItem part keys item := by
  induction items generalizing seen done with
  | nil => exact .inl (List.mem_reverse.mp h)
  | cons item items ih =>
    rcases ih h with hdone | ⟨keys, other, hother, ho⟩
    · rcases List.mem_cons.mp hdone with rfl | hdone
      · exact .inr ⟨seen, item, List.mem_cons_self, rfl⟩
      · exact .inl hdone
    · exact .inr ⟨keys, other, List.mem_cons_of_mem item hother, ho⟩

/-- The entries of an ordered mapping that is built are sound. -/
theorem isSound_of_buildOrderedItems (hpart : ∀ n d, part n = .ok d → d.HasHashableKeys)
    (hleaf : ∀ n d, part n = .ok d → n.tag.collectionName? = none → d.isLeaf = true)
    {items : List Node} {es : List (Data × Data)}
    (h : Outcome.all (buildOrderedItems part [] [] items) = .ok es) : ∀ e ∈ es, IsSound e := by
  intro e he
  have hmem : Outcome.ok e ∈ buildOrderedItems part [] [] items := by
    rw [Outcome.all_eq_ok_iff.mp h]
    exact List.mem_map_of_mem he
  rcases exists_of_mem_buildOrderedItems hmem with hnil | ⟨keys, item, -, hitem⟩
  · cases hnil
  · exact isSound_of_buildOrderedItem hpart hleaf hitem.symm

/-- An item of a list of pairs is a tuple. -/
theorem hasHashableKeys_of_buildPair {item : Node} {d : Data} (h : buildPair part item = .ok d) :
    d.HasHashableKeys := by
  unfold buildPair at h
  split at h
  · cases h
  · obtain ⟨p, -, rfl⟩ := Outcome.exists_of_map_eq_ok h
    exact hasHashableKeys_tuple _

end Entries

/-! ## Data that is built -/

/-- A node whose tag makes no collection makes what a scalar can be made. -/
theorem isLeaf_of_build {v : Version} {fuel : Nat} {deep : Bool} {n : Node} {d : Data}
    (h : build v fuel deep n = .ok d) (htag : n.tag.collectionName? = none) : d.isLeaf = true := by
  cases fuel with
  | zero => cases h
  | succ fuel =>
    unfold build at h
    dsimp only at h
    split at h
    · next r hr =>
      cases r with
      | error f => cases h
      | ok a =>
        cases h
        exact isLeaf_of_buildScalar? hr
    · split at h
      case h_6 => cases h
      all_goals
        next hcollection =>
          rw [hcollection] at htag
          cases htag

/-- Every key in data that is built can be looked up. -/
theorem hasHashableKeys_of_build {v : Version} {fuel : Nat} {deep : Bool} {n : Node} {d : Data}
    (h : build v fuel deep n = .ok d) : d.HasHashableKeys := by
  induction fuel generalizing deep n d with
  | zero => cases h
  | succ fuel ih =>
    -- The parts of a collection are built with less fuel, whether at once or level by level.
    have hpart : ∀ m c, build v fuel deep m = .ok c → c.HasHashableKeys := fun m c => ih
    unfold build at h
    dsimp only at h
    split at h
    · next r hr =>
      cases r with
      | error f => cases h
      | ok a =>
        cases h
        exact hasHashableKeys_of_isLeaf (isLeaf_of_buildScalar? hr)
    · split at h
      · -- A sequence.
        split at h
        · obtain ⟨items, hitems, rfl⟩ := Outcome.exists_of_map_eq_ok (Outcome.of_level_eq_ok h)
          apply hasHashableKeys_list
          intro i hi
          obtain ⟨m, hm⟩ := Outcome.exists_of_mem_all hitems hi
          exact hpart m i hm
        · cases Outcome.of_level_eq_ok h
      · -- A mapping.
        obtain ⟨es, hes, rfl⟩ := Outcome.exists_of_map_eq_ok (Outcome.of_level_eq_ok h)
        exact hasHashableKeys_map (isSound_of_buildMapping hpart hes)
      · -- A set.
        obtain ⟨es, -, rfl⟩ := Outcome.exists_of_map_eq_ok (Outcome.of_level_eq_ok h)
        exact hasHashableKeys_set _
      · -- An ordered mapping.
        split at h
        · cases Outcome.of_level_eq_ok h
        · obtain ⟨es, hes, rfl⟩ := Outcome.exists_of_map_eq_ok (Outcome.of_level_eq_ok h)
          have hleaf : ∀ m c, build v fuel deep m = .ok c →
              m.tag.collectionName? = none → c.isLeaf = true := fun m c => isLeaf_of_build
          exact hasHashableKeys_map (isSound_of_buildOrderedItems hpart hleaf hes)
      · -- A list of pairs.
        split at h
        · cases Outcome.of_level_eq_ok h
        · obtain ⟨ps, hps, rfl⟩ := Outcome.exists_of_map_eq_ok (Outcome.of_level_eq_ok h)
          apply hasHashableKeys_list
          intro i hi
          obtain ⟨m, hm⟩ := Outcome.exists_of_mem_all hps hi
          exact hasHashableKeys_of_buildPair hm
      · cases h

/-! ## Parts that may occur -/

/-- Whether data may stand in a role: scalars in both, lists and mappings as values alone. -/
def Data.isListed : Role → Data → Bool
  | _, .scalar _ => true
  | _, .notANumber => true
  | .value, .list _ => true
  | .value, .map _ _ => true
  | _, _ => false

/-- What can be looked up and may not be a key is bytes or a tuple. -/
theorem exists_of_not_isListed_key {k : Data} (hhash : k.unhashable? = none)
    (h : k.isListed .key = false) : (∃ bs, k = .bytes bs) ∨ ∃ items, k = .tuple items := by
  cases k with
  | scalar s => cases h
  | notANumber => cases h
  | bytes bs => exact .inl ⟨bs, rfl⟩
  | tuple items => exact .inr ⟨items, rfl⟩
  | list items => cases hhash
  | set members => cases hhash
  | map ordered entries => cases hhash

end FrontMatter.Yaml
