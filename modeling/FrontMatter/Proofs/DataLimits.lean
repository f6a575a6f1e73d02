import FrontMatter.Proofs.DataParts
import Mathlib.Data.List.Basic

/-!
# `FrontMatter.Proofs.DataLimits` — the part of data that breaks the limits first

The walk over data counts the parts that it has met, and hands the depth down. What it gives can be
said without it: list the parts in pre-order, each with its depth, and look for the first one that
is the 10001st, deeper than 20, or of a type that may not occur. It is the violation that is told;
where there is none, the walk gives a value that is equal to the data.

## Contents

* `Data.parts`: the parts of data in pre-order, each with its depth.
* `violation?`, `firstViolation?`: what is wrong with a part, and with the first part that is wrong.
* `Data.HasTextKeys`: the keys of mappings are texts, and none is there twice.
* `Data.Denotes`: a value that is equal to data.
* `walk_restrictFrom`: the walk over a part, after any number of parts.
* `restrict_exact`: the limits are exact.
* `deepBytes`: data that is too deep where its type may not occur.
-/

namespace FrontMatter.Yaml

/-! ## Parts in order -/

mutual

/-- The parts of data, each with its depth: the data itself, and then the parts of what it holds,
one after the other. The keys of a mapping are no parts, nor is what stands in tuples and sets. -/
def Data.parts (depth : Nat) : Data → List (Nat × Data)
  | .list items => (depth, .list items) :: Data.itemParts (depth + 1) items
  | .map ordered entries => (depth, .map ordered entries) :: Data.entryParts (depth + 1) entries
  | d => [(depth, d)]

/-- The parts of the items of a list. -/
def Data.itemParts (depth : Nat) : List Data → List (Nat × Data)
  | [] => []
  | d :: ds => d.parts depth ++ Data.itemParts depth ds

/-- The parts of the values of a mapping. -/
def Data.entryParts (depth : Nat) : List (Data × Data) → List (Nat × Data)
  | [] => []
  | (_, d) :: es => d.parts depth ++ Data.entryParts depth es

end

/-! ## Violations -/

/-- What is wrong with the `count`th part, if anything is: that there are too many parts before it,
that it is too deep, or that it has a type that may not occur. The first of these counts. -/
def violation? (count : Nat) (part : Nat × Data) : Option Violation :=
  if 10000 < count then some (.nodes 10000)
  else if 20 < part.1 then some (.depth 20)
  else if part.2.isListed .value then none
  else some (.type part.2.typeName)

/-- What is wrong with the first part that is not right, after `seen` others. -/
def firstViolation? (seen : Nat) (parts : List (Nat × Data)) : Option Violation :=
  (parts.zipIdx (seen + 1)).findSome? fun e => violation? e.2 e.1

/-- A part is looked at before the parts after it. -/
theorem firstViolation?_cons (seen : Nat) (part : Nat × Data) (parts : List (Nat × Data)) :
    firstViolation? seen (part :: parts)
      = (violation? (seen + 1) part).or (firstViolation? (seen + 1) parts) := by
  unfold firstViolation?
  rw [List.zipIdx_cons, List.findSome?_cons]
  cases violation? (seen + 1) part <;> rfl

/-- Of parts one after the other, the first ones are looked at first. -/
theorem firstViolation?_append (seen : Nat) (parts others : List (Nat × Data)) :
    firstViolation? seen (parts ++ others)
      = (firstViolation? seen parts).or (firstViolation? (seen + parts.length) others) := by
  unfold firstViolation?
  rw [List.zipIdx_append, List.findSome?_append]
  have hfirst : seen + 1 + parts.length = seen + parts.length + 1 := by omega
  rw [hfirst]

/-- Nothing is wrong where nothing is wrong with any part. -/
theorem firstViolation?_eq_none_iff {seen : Nat} {parts : List (Nat × Data)} :
    firstViolation? seen parts = none ↔
      ∀ i part, parts[i]? = some part → violation? (seen + i + 1) part = none := by
  unfold firstViolation?
  rw [List.findSome?_eq_none_iff]
  constructor
  · intro h i part hpart
    have hmem : (part, seen + 1 + i) ∈ parts.zipIdx (seen + 1) :=
      List.mk_add_mem_zipIdx_iff_getElem?.mpr hpart
    have hcount : seen + i + 1 = seen + 1 + i := by omega
    rw [hcount]
    exact h _ hmem
  · rintro h ⟨part, count⟩ hmem
    obtain ⟨hle, hpart⟩ := List.mk_mem_zipIdx_iff_le_and_getElem?_sub.mp hmem
    have hcount : seen + (count - (seen + 1)) + 1 = count := by omega
    have hnone := h _ part hpart
    rw [hcount] at hnone
    exact hnone

/-- The first part with which something is wrong splits the parts. -/
theorem firstViolation?_eq_some_iff {seen : Nat} {parts : List (Nat × Data)} {v : Violation} :
    firstViolation? seen parts = some v ↔ ∃ before part after, parts = before ++ part :: after
      ∧ firstViolation? seen before = none
      ∧ violation? (seen + before.length + 1) part = some v := by
  constructor
  · intro h
    induction parts generalizing seen with
    | nil => cases h
    | cons part parts ih =>
      rw [firstViolation?_cons] at h
      cases hfirst : violation? (seen + 1) part with
      | some w =>
        rw [hfirst, Option.some_or] at h
        exact ⟨[], part, parts, rfl, rfl, h ▸ hfirst⟩
      | none =>
        rw [hfirst, Option.none_or] at h
        obtain ⟨before, broken, after, rfl, hbefore, hbroken⟩ := ih h
        refine ⟨part :: before, broken, after, rfl, ?_, ?_⟩
        · rw [firstViolation?_cons, hfirst, hbefore]
          rfl
        · have hcount : seen + (part :: before).length + 1 = seen + 1 + before.length + 1 := by
            rw [List.length_cons]
            omega
          rw [hcount]
          exact hbroken
  · rintro ⟨before, part, after, rfl, hbefore, hpart⟩
    rw [firstViolation?_append, firstViolation?_cons, hbefore, hpart]
    rfl

/-- Parts within the limits: at most 10000 of them, none deeper than 20, and none of a type that may
not occur. -/
structure IsWithinLimits (parts : List (Nat × Data)) : Prop where
  count : parts.length ≤ 10000
  depth : ∀ part ∈ parts, part.1 ≤ 20
  type : ∀ part ∈ parts, part.2.isListed .value = true

/-- A violation of the first part with which something is wrong: nothing is wrong with the parts
before it. -/
def BreaksFirst (parts : List (Nat × Data)) (v : Violation) : Prop :=
  ∃ before part after, parts = before ++ part :: after
    ∧ violation? (before.length + 1) part = some v
    ∧ ∀ i earlier, before[i]? = some earlier → violation? (i + 1) earlier = none

/-- Nothing is wrong with a part exactly where it is early, not deep, and of a type that may
occur. -/
theorem violation?_eq_none_iff {count : Nat} {part : Nat × Data} :
    violation? count part = none ↔
      count ≤ 10000 ∧ part.1 ≤ 20 ∧ part.2.isListed .value = true := by
  unfold violation?
  split
  · next h => simp [Nat.not_le.mpr h]
  · next h =>
    split
    · next h' => simp [Nat.not_le.mpr h']
    · next h' => simp [Nat.not_lt.mp h, Nat.not_lt.mp h']

/-- Nothing is wrong exactly within the limits. -/
theorem isWithinLimits_iff {parts : List (Nat × Data)} :
    IsWithinLimits parts ↔ firstViolation? 0 parts = none := by
  rw [firstViolation?_eq_none_iff]
  constructor
  · intro h i part hpart
    obtain ⟨hi, -⟩ := List.getElem?_eq_some_iff.mp hpart
    have hmem := List.mem_of_getElem? hpart
    have hcount := h.count
    exact violation?_eq_none_iff.mpr ⟨by omega, h.depth part hmem, h.type part hmem⟩
  · intro h
    have hparts : ∀ part ∈ parts, ∃ count, violation? count part = none := by
      intro part hpart
      obtain ⟨i, hi⟩ := List.getElem?_of_mem hpart
      exact ⟨_, h i part hi⟩
    refine ⟨Nat.not_lt.mp fun hlong => ?_, fun part hpart => ?_, fun part hpart => ?_⟩
    · -- The 10001st part would be one too many.
      have hlate := h 10000 parts[10000] (List.getElem?_eq_getElem hlong)
      have hcount := (violation?_eq_none_iff.mp hlate).1
      omega
    · obtain ⟨count, hcount⟩ := hparts part hpart
      exact (violation?_eq_none_iff.mp hcount).2.1
    · obtain ⟨count, hcount⟩ := hparts part hpart
      exact (violation?_eq_none_iff.mp hcount).2.2

/-- The violation that is found first. -/
theorem breaksFirst_iff {parts : List (Nat × Data)} {v : Violation} :
    BreaksFirst parts v ↔ firstViolation? 0 parts = some v := by
  rw [firstViolation?_eq_some_iff]
  unfold BreaksFirst
  simp only [firstViolation?_eq_none_iff, Nat.zero_add]
  constructor
  · rintro ⟨before, part, after, hparts, hpart, hbefore⟩
    exact ⟨before, part, after, hparts, hbefore, hpart⟩
  · rintro ⟨before, part, after, hparts, hbefore, hpart⟩
    exact ⟨before, part, after, hparts, hpart, hbefore⟩

/-! ## Values of data -/

/-- Every mapping in data, at any depth, has texts as its keys, and none of them twice. -/
def Data.HasTextKeys (d : Data) : Prop :=
  ∀ ordered entries, d.HasPart .value (.map ordered entries) →
    ∃ keys : List String, keys.Nodup ∧ entries.map Prod.fst = keys.map fun s => .scalar (.str s)

/-- A value that is equal to data: the same scalars, lists of equal items, and mappings with the
same texts as keys and equal values, in the same order. -/
inductive Data.Denotes : Data → Value → Prop
  | scalar (s : Scalar) : Denotes (.scalar s) (.scalar s)
  | notANumber : Denotes .notANumber (.scalar (.float Decimal.notANumber))
  | list {items : List Data} {values : List Value} (equal : List.Forall₂ Denotes items values) :
      Denotes (.list items) (.list values)
  | map {ordered : Bool} {entries : List (Data × Data)} {pairs : List (String × Value)}
      (keys : entries.map Prod.fst = pairs.map fun p => .scalar (.str p.1))
      (equal : List.Forall₂ Denotes (entries.map Prod.snd) (pairs.map Prod.snd)) :
      Denotes (.map ordered entries) (.map pairs)

/-! ## The walk -/

/-- How the walk over some parts ends after `seen` others: with the first violation among them, or
with something that is denoted and the number of parts in all. -/
def WalkEnds {α : Type} (seen : Nat) (parts : List (Nat × Data)) (IsDenoted : α → Prop)
    (result : Except Fault (α × Nat)) : Prop :=
  match firstViolation? seen parts with
  | some v => result = .error (.violation v none)
  | none => ∃ a, IsDenoted a ∧ result = .ok (a, seen + parts.length)

section Walk

variable {α β : Type} {seen depth : Nat} {parts others : List (Nat × Data)}

/-- A walk over no parts. -/
theorem WalkEnds.done {IsDenoted : α → Prop} {a : α} (h : IsDenoted a) :
    WalkEnds seen [] IsDenoted (.ok (a, seen)) :=
  ⟨a, h, rfl⟩

/-- A walk that goes on over other parts. -/
theorem WalkEnds.bind {IsDenoted : α → Prop} {IsDenoted' : β → Prop}
    {result : Except Fault (α × Nat)} {next : α × Nat → Except Fault (β × Nat)}
    (h : WalkEnds seen parts IsDenoted result)
    (hnext : ∀ a, IsDenoted a →
      WalkEnds (seen + parts.length) others IsDenoted' (next (a, seen + parts.length))) :
    WalkEnds seen (parts ++ others) IsDenoted' (result >>= next) := by
  unfold WalkEnds at h ⊢
  rw [firstViolation?_append]
  cases hfirst : firstViolation? seen parts with
  | some v =>
    rw [hfirst] at h
    rw [h]
    rfl
  | none =>
    rw [hfirst] at h
    obtain ⟨a, ha, rfl⟩ := h
    have hlength : seen + (parts ++ others).length = seen + parts.length + others.length := by
      rw [List.length_append, Nat.add_assoc]
    rw [Option.none_or, hlength]
    exact hnext a ha

/-- A walk whose result is only put together. -/
theorem WalkEnds.map {IsDenoted : α → Prop} {IsDenoted' : β → Prop}
    {result : Except Fault (α × Nat)} {f : α → β} (h : WalkEnds seen parts IsDenoted result)
    (hf : ∀ a, IsDenoted a → IsDenoted' (f a)) :
    WalkEnds seen parts IsDenoted' (result >>= fun r => .ok (f r.1, r.2)) := by
  have hbind : WalkEnds seen (parts ++ []) IsDenoted' (result >>= fun r => .ok (f r.1, r.2)) :=
    h.bind fun a ha => .done (hf a ha)
  rwa [List.append_nil] at hbind

/-- Count and depth are checked first, and the type where they are right. -/
theorem checkPart_cases (count depth : Nat) (d : Data) :
    (∃ v, violation? count (depth, d) = some v
      ∧ checkPart count depth = .error (.violation v none)) ∨
    (checkPart count depth = .ok ()
      ∧ violation? count (depth, d)
        = if d.isListed .value then none else some (.type d.typeName)) := by
  unfold violation? checkPart
  by_cases hcount : 10000 < count
  · left
    exact ⟨_, if_pos hcount, if_pos hcount⟩
  · rw [if_neg hcount, if_neg (show ¬ maxParts < count from hcount)]
    by_cases hdepth : 20 < depth
    · left
      exact ⟨_, if_pos hdepth, if_pos hdepth⟩
    · right
      exact ⟨if_neg hdepth, if_neg hdepth⟩

/-- A part that may occur is walked before the parts in it. -/
theorem walkEnds_part {IsDenoted : α → Prop} {d : Data} (hlisted : d.isListed .value = true)
    {below : Except Fault (α × Nat)} (h : WalkEnds (seen + 1) parts IsDenoted below) :
    WalkEnds seen ((depth, d) :: parts) IsDenoted
      (checkPart (seen + 1) depth >>= fun _ => below) := by
  unfold WalkEnds at h ⊢
  rw [firstViolation?_cons]
  rcases checkPart_cases (seen + 1) depth d with ⟨v, hv, hcheck⟩ | ⟨hcheck, hv⟩
  · rw [hv, hcheck]
    rfl
  · have hlength : seen + ((depth, d) :: parts).length = seen + 1 + parts.length := by
      rw [List.length_cons]
      omega
    rw [hv, hcheck, if_pos hlisted, Option.none_or, hlength]
    exact h

/-- A part that may not occur ends the walk. -/
theorem walkEnds_unlisted {IsDenoted : α → Prop} {d : Data} (hlisted : d.isListed .value = false) :
    WalkEnds seen [(depth, d)] IsDenoted
      (checkPart (seen + 1) depth >>= fun _ => .error (typeFault d)) := by
  unfold WalkEnds
  rw [firstViolation?_cons]
  rcases checkPart_cases (seen + 1) depth d with ⟨v, hv, hcheck⟩ | ⟨hcheck, hv⟩
  · rw [hv, hcheck]
    rfl
  · rw [hv, hcheck, if_neg (Bool.eq_false_iff.mp hlisted)]
    rfl

end Walk

/-- The keys of a mapping in data with texts as keys. -/
theorem Data.HasTextKeys.exists_keys {ordered : Bool} {entries : List (Data × Data)}
    (h : Data.HasTextKeys (.map ordered entries)) :
    ∃ keys : List String, keys.Nodup ∧ entries.map Prod.fst = keys.map fun s => .scalar (.str s) :=
  h ordered entries (.root _)

/-- The items of a list with texts as keys. -/
theorem Data.HasTextKeys.item {items : List Data} (h : Data.HasTextKeys (.list items)) {d : Data}
    (hd : d ∈ items) : d.HasTextKeys :=
  fun ordered entries hpart => h ordered entries (.item hd hpart)

/-- The values of a mapping with texts as keys. -/
theorem Data.HasTextKeys.value {ordered : Bool} {entries : List (Data × Data)}
    (h : Data.HasTextKeys (.map ordered entries)) {e : Data × Data} (he : e ∈ entries) :
    e.2.HasTextKeys :=
  fun ordered entries hpart => h ordered entries (.value he hpart)

/-- A list of such items has texts as keys. -/
theorem hasTextKeys_list {items : List Data} (h : ∀ d ∈ items, d.HasTextKeys) :
    Data.HasTextKeys (.list items) := by
  intro ordered entries hpart
  cases hpart with
  | item hd hpart => exact h _ hd ordered entries hpart

/-- A mapping from distinct texts to such values has texts as keys. -/
theorem hasTextKeys_map {ordered : Bool} {entries : List (Data × Data)} {keys : List String}
    (hnodup : keys.Nodup) (hkeys : entries.map Prod.fst = keys.map fun s => .scalar (.str s))
    (h : ∀ e ∈ entries, e.2.HasTextKeys) : Data.HasTextKeys (.map ordered entries) := by
  intro o es hpart
  cases hpart with
  | root => exact ⟨keys, hnodup, hkeys⟩
  | value he hpart => exact h _ he o es hpart

/-- A value for each key. -/
def DenoteEntries (entries : List (Data × Data)) (pairs : List (String × Value)) : Prop :=
  entries.map Prod.fst = pairs.map (fun p => .scalar (.str p.1))
    ∧ List.Forall₂ Data.Denotes (entries.map Prod.snd) (pairs.map Prod.snd)

/-- The table that is built from pairs is equal to a mapping whose entries they are. -/
theorem denotes_ofList {ordered : Bool} {entries : List (Data × Data)} {keys : List String}
    (hnodup : keys.Nodup) (hkeys : entries.map Prod.fst = keys.map fun s => .scalar (.str s))
    {pairs : List (String × Value)} (h : DenoteEntries entries pairs) :
    Data.Denotes (.map ordered entries) (.map (Table.ofList pairs)) := by
  have hsame : (Table.keys pairs).map (fun s => Data.scalar (.str s))
      = keys.map fun s => .scalar (.str s) := by
    rw [← hkeys, h.1]
    exact List.map_map
  have htext : Function.Injective fun s => Data.scalar (.str s) := by
    intro s t hst
    cases hst
    rfl
  have hpairs : Table.keys pairs = keys := List.map_injective_iff.mpr htext hsame
  rw [Table.ofList_of_nodup (hpairs ▸ hnodup)]
  exact .map h.1 h.2

mutual

/-- The walk over data ends with the first violation, or with a value that is equal to the data. -/
theorem walk_restrictFrom (seen depth : Nat) {d : Data} (h : d.HasTextKeys) :
    WalkEnds seen (d.parts depth) d.Denotes (d.restrictFrom seen depth) := by
  cases d with
  | scalar s =>
    exact walkEnds_part rfl (.done (.scalar s))
  | notANumber => exact walkEnds_part rfl (.done .notANumber)
  | list items =>
    have hitems := walk_restrictItems (seen + 1) (depth + 1) fun d hd => h.item hd
    exact walkEnds_part rfl (hitems.map fun vs hvs => .list hvs)
  | map ordered entries =>
    obtain ⟨keys, hnodup, hkeys⟩ := h.exists_keys
    have hentries := walk_restrictEntries (seen + 1) (depth + 1) hkeys fun e he => h.value he
    exact walkEnds_part rfl (hentries.map fun ps hps => denotes_ofList hnodup hkeys hps)
  | bytes bs => exact walkEnds_unlisted rfl
  | tuple items => exact walkEnds_unlisted rfl
  | set members => exact walkEnds_unlisted rfl

/-- So it is for items, one after the other. -/
theorem walk_restrictItems (seen depth : Nat) {ds : List Data} (h : ∀ d ∈ ds, d.HasTextKeys) :
    WalkEnds seen (Data.itemParts depth ds) (List.Forall₂ Data.Denotes ds)
      (Data.restrictItems seen depth ds) := by
  cases ds with
  | nil => exact .done .nil
  | cons d ds =>
    have hfirst := walk_restrictFrom seen depth (h d List.mem_cons_self)
    refine hfirst.bind fun v hv => ?_
    have hrest := walk_restrictItems (seen + (d.parts depth).length) depth
      fun c hc => h c (List.mem_cons_of_mem d hc)
    exact hrest.map fun vs hvs => .cons hv hvs

/-- So it is for entries, each after its key. -/
theorem walk_restrictEntries (seen depth : Nat) {es : List (Data × Data)} {keys : List String}
    (hkeys : es.map Prod.fst = keys.map fun s => .scalar (.str s))
    (h : ∀ e ∈ es, e.2.HasTextKeys) :
    WalkEnds seen (Data.entryParts depth es) (DenoteEntries es)
      (Data.restrictEntries seen depth es) := by
  cases es with
  | nil => exact .done ⟨rfl, .nil⟩
  | cons e es =>
    obtain ⟨k, d⟩ := e
    obtain ⟨key, keys, rfl, rfl, hfurther⟩ := List.map_eq_cons_iff.mp hkeys.symm
    have hfirst := walk_restrictFrom seen depth (h _ List.mem_cons_self)
    refine hfirst.bind fun v hv => ?_
    have hrest := walk_restrictEntries (seen + (d.parts depth).length) depth hfurther.symm
      fun c hc => h c (List.mem_cons_of_mem _ hc)
    refine hrest.map fun ps hps => ⟨?_, .cons hv hps.2⟩
    rw [List.map_cons, List.map_cons, hps.1]

end

/-! ## The limits -/

/-- **The limits are exact.** Data in whose mappings the keys are texts and none is there twice has
a value exactly if, among its parts in pre-order, there are at most 10000, none is deeper than 20,
and none has a type that may not occur; the value is equal to the data. Otherwise the first part in
pre-order with which something is wrong is told: that it is one too many, else that it is too deep,
else that its type may not occur. -/
theorem restrict_exact {d : Data} (h : d.HasTextKeys) :
    ((∃ v, d.restrict = .ok v) ↔ IsWithinLimits (d.parts 0))
      ∧ (∀ v, d.restrict = .ok v → d.Denotes v)
      ∧ ∀ f, d.restrict = .error f ↔ ∃ v, BreaksFirst (d.parts 0) v ∧ f = .violation v none := by
  have hwalk := walk_restrictFrom 0 0 h
  unfold WalkEnds at hwalk
  unfold Data.restrict
  simp only [isWithinLimits_iff, breaksFirst_iff]
  cases hfirst : firstViolation? 0 (d.parts 0) with
  | some w =>
    rw [hfirst] at hwalk
    rw [hwalk]
    simp [Except.map, eq_comm]
  | none =>
    rw [hfirst] at hwalk
    obtain ⟨u, hu, hwalk⟩ := hwalk
    rw [hwalk]
    simp [Except.map, hu]

/-- Data in a number of lists, one in the other. -/
def Data.nested (d : Data) : Nat → Data
  | 0 => d
  | n + 1 => .list [d.nested n]

/-- A mapping in which bytes stand at depth 21. -/
def deepBytes : Data :=
  .map false [(.scalar (.str "a"), .scalar .null), (.scalar (.str "b"), Data.nested (.bytes []) 20)]

/-- Data in lists has texts as keys if it has them by itself. -/
theorem Data.HasTextKeys.nested {d : Data} (h : d.HasTextKeys) (n : Nat) :
    (d.nested n).HasTextKeys := by
  induction n with
  | zero => exact h
  | succ n ih =>
    apply hasTextKeys_list
    intro c hc
    rw [List.mem_singleton.mp hc]
    exact ih

/-- The bytes are turned down for their depth, and not for their type. -/
theorem restrict_deepBytes : deepBytes.HasTextKeys
    ∧ deepBytes.restrict = .error (.violation (.depth 20) none) := by
  have hnull : Data.HasTextKeys (.scalar .null) := by
    intro ordered entries hpart
    cases hpart
  have hbytes : Data.HasTextKeys (.bytes []) := by
    intro ordered entries hpart
    cases hpart
  have hkeys : deepBytes.HasTextKeys := by
    have hnodup : ["a", "b"].Nodup := by decide
    refine hasTextKeys_map hnodup rfl ?_
    rintro e (_ | ⟨_, _ | ⟨_, _ | _⟩⟩)
    · exact hnull
    · exact hbytes.nested 20
  obtain ⟨-, -, herror⟩ := restrict_exact hkeys
  refine ⟨hkeys, (herror _).mpr ⟨_, ?_, rfl⟩⟩
  rw [breaksFirst_iff]
  rfl

end FrontMatter.Yaml
