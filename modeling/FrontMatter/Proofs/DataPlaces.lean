import FrontMatter.Document.Read
import FrontMatter.Proofs.DataParts
import FrontMatter.Proofs.NodePlaces

/-!
# `FrontMatter.Proofs.DataPlaces` — the places of data that cannot be built

Whatever keeps a node from denoting data is at the start of a node of the tree, or it has no place.
The fault of a collection is one of the faults of its parts, and the entries that merge keys bring
are entries of the same tree. So every fault for which a block is turned down is at a place that a
cursor before its text comes to.

## Contents

* `Outcome.IsAt`: outcomes whose fault is at a place with a property, with their combinations.
* `yields_scalarText`, `yields_buildScalar?`: scalars.
* `yields_flatten`: merge keys.
* `isAt_build`: any node.
* `isAt_of_valueOfText`: any text.
-/

namespace FrontMatter.Yaml

/-! ## Outcomes -/

namespace Outcome

variable {α β : Type} {p : Mark → Prop}

/-- The fault of an outcome, if it is one, is at a place with a property. -/
def IsAt (p : Mark → Prop) : Outcome α → Prop
  | .ok _ => True
  | .fault _ f => f.IsAt p

/-- A reading as an outcome. -/
theorem isAt_ofExcept {x : Except Fault α} (h : FailsAt p x) : (ofExcept x).IsAt p := by
  cases h with
  | ok _ => trivial
  | error place => exact place

/-- An outcome as a reading. -/
theorem IsAt.yields_toExcept {o : Outcome α} (h : o.IsAt p) :
    FailsAt p o.toExcept := by
  cases o with
  | ok _ => exact .ok trivial
  | fault _ _ => exact .error h

/-- Something made of the result. -/
theorem IsAt.map {o : Outcome α} (h : o.IsAt p) (f : α → β) : (o.map f).IsAt p := by
  cases o with
  | ok _ => trivial
  | fault _ _ => exact h

/-- One level further down. -/
theorem IsAt.below {o : Outcome α} (h : o.IsAt p) : o.below.IsAt p := by
  cases o with
  | ok _ => trivial
  | fault _ _ => exact h

/-- Two outcomes. -/
theorem IsAt.both {a : Outcome α} {b : Outcome β} (ha : a.IsAt p) (hb : b.IsAt p) :
    (a.both b).IsAt p := by
  cases a with
  | ok _ => cases b <;> exact hb
  | fault k e =>
    cases b with
    | ok _ => exact ha
    | fault l f =>
      unfold Outcome.both
      dsimp only
      split
      · exact hb
      · exact ha

/-- A check after an outcome. -/
theorem IsAt.check {o : Outcome α} {fault? : Option Fault} (h : o.IsAt p)
    (hfault : ∀ f, fault? = some f → f.IsAt p) : (o.check fault?).IsAt p := by
  cases fault? with
  | none => exact h
  | some f => exact (h.both (b := (.fault 0 f : Outcome Unit)) (hfault f rfl)).map _

/-- The fault of several outcomes is one of theirs. -/
theorem exists_of_foldl_earlier {os : List (Outcome α)} {first : Option (Nat × Fault)} {l : Nat}
    {f : Fault} (h : os.foldl earlier first = some (l, f)) :
    first = some (l, f) ∨ .fault l f ∈ os := by
  induction os generalizing first with
  | nil => exact .inl h
  | cons o os ih =>
    rcases ih h with hnext | hmem
    · unfold earlier at hnext
      split at hnext
      · exact .inl hnext
      · cases hnext
        exact .inr List.mem_cons_self
      · split at hnext
        · cases hnext
          exact .inr List.mem_cons_self
        · exact .inl hnext
    · exact .inr (List.mem_cons_of_mem o hmem)

/-- Several outcomes. -/
theorem isAt_all {os : List (Outcome α)} (h : ∀ o ∈ os, o.IsAt p) : (all os).IsAt p := by
  unfold all
  split
  · rename_i l f hfold
    rcases exists_of_foldl_earlier hfold with hnone | hmem
    · cases hnone
    · exact h _ hmem
  · trivial

end Outcome

/-! ## Scalars -/

section Scalars

variable {p : Mark → Prop} {n : Node}

/-- A fault at a node. -/
theorem Node.IsAt.yields_fault {α : Type} {q : α → Prop} (h : n.IsAt p) (cause : BuildCause) :
    Yields p q (n.fault cause) :=
  .error (Fault.isAt_of_mark rfl h.start)

/-- The text of a node. -/
theorem yields_scalarText (fuel : Nat) (h : n.IsAt p) :
    FailsAt p (n.scalarText fuel) := by
  induction fuel generalizing n with
  | zero =>
    cases n with
    | scalar _ _ _ => exact .ok trivial
    | sequence _ _ _ => exact h.yields_fault _
    | mapping _ _ _ => exact h.yields_fault _
  | succ fuel ih =>
    cases n with
    | scalar _ _ _ => exact .ok trivial
    | sequence _ _ _ => exact h.yields_fault _
    | mapping tag entries m =>
      cases h with
      | mapping start keys values =>
        simp only [Node.scalarText]
        split
        · exact ih (values _ (List.mem_of_find?_eq_some ‹_›))
        · exact Node.IsAt.yields_fault (.mapping start keys values) _

/-- A refusal has no place. -/
theorem yields_refuse {α : Type} (p : Mark → Prop) (x : Except Refusal α) :
    FailsAt p (refuse x) := by
  cases x with
  | ok _ => exact .ok trivial
  | error r => exact .error (Fault.isAt_of_no_mark rfl)

/-- A truth value. -/
theorem yields_buildBool (p : Mark → Prop) (text : String) :
    FailsAt p (buildBool text) := by
  unfold buildBool
  dsimp only
  split
  · exact .ok trivial
  · exact .error (Fault.isAt_of_no_mark rfl)

/-- A double. -/
theorem yields_buildFloat (p : Mark → Prop) (v : Version) (text : String) :
    FailsAt p (buildFloat v text) := by
  unfold buildFloat
  refine (yields_refuse p (floatValue v text)).bind fun x => ?_
  cases x with
  | notANumber => exact .ok trivial
  | double _ => exact .ok trivial

/-- Bytes. -/
theorem yields_buildBinary (h : n.IsAt p) (text : String) :
    FailsAt p (buildBinary n text) := by
  unfold buildBinary
  split
  · exact h.yields_fault _
  · split
    · exact .ok trivial
    · exact h.yields_fault _

/-- A day or a moment. -/
theorem yields_buildTimestamp (fuel : Nat) (h : n.IsAt p) :
    FailsAt p (buildTimestamp fuel n) := by
  simp only [buildTimestamp]
  split
  · exact h.yields_fault _
  · split
    · exact (yields_refuse p _).map _
    · exact (yields_scalarText fuel h).map _

/-- What a node makes whose tag is that of a scalar. -/
theorem yields_buildScalar? {v : Version} {fuel : Nat} {r : Except Fault Data} (h : n.IsAt p)
    (hscalar : buildScalar? v fuel n = some r) : FailsAt p r := by
  have htext := yields_scalarText fuel h
  simp only [buildScalar?] at hscalar
  split at hscalar <;> cases hscalar
  · exact htext.map _
  · exact htext.bind (yields_buildBool p)
  · exact htext.bind fun t => (yields_refuse p (intValue v t)).map _
  · exact htext.bind (yields_buildFloat p v)
  · exact htext.bind (yields_buildBinary h)
  · exact yields_buildTimestamp fuel h
  · exact htext.map _

end Scalars

/-! ## Merge keys -/

section Mappings

variable {p : Mark → Prop} {n : Node}

/-- A node with another tag is where it was. -/
theorem Node.IsAt.withTag (h : n.IsAt p) (tag : Tag) : (n.withTag tag).IsAt p := by
  cases h with
  | scalar start => exact .scalar start
  | sequence start parts => exact .sequence start parts
  | mapping start keys values => exact .mapping start keys values

/-- Entries at places with a property, those that merge keys bring among them. -/
def Flattened.IsAt (p : Mark → Prop) (f : Flattened) : Prop :=
  ∀ e ∈ f.all, EntryIsAt p e

/-- The entries of a mapping. -/
theorem Node.IsAt.entries {tag : Tag} {entries : List (Node × Node)} {m : Mark}
    (h : (Node.mapping tag entries m).IsAt p) : ∀ e ∈ entries, EntryIsAt p e := by
  cases h with
  | mapping _ keys values => exact fun e he => ⟨keys e he, values e he⟩

/-- What the value of a merge key brings. -/
theorem yields_mergeEntries {inside : List (Node × Node) → Except Fault Flattened}
    (hinside : ∀ es, (∀ e ∈ es, EntryIsAt p e) → Yields p (Flattened.IsAt p) (inside es))
    (h : n.IsAt p) : Yields p (fun es => ∀ e ∈ es, EntryIsAt p e) (mergeEntries inside n) := by
  cases h with
  | scalar start => exact .error (Fault.isAt_of_mark rfl start)
  | mapping start keys values =>
    exact (hinside _ fun e he => ⟨keys e he, values e he⟩).map fun f hf => hf
  | sequence start parts =>
    refine Yields.bind (q := fun lists => ∀ es ∈ lists, ∀ e ∈ es, EntryIsAt p e)
      (Yields.mapM fun item hitem => ?_) fun lists hlists => .ok fun e he => ?_
    · cases parts item hitem with
      | scalar start => exact .error (Fault.isAt_of_mark rfl start)
      | sequence start _ => exact .error (Fault.isAt_of_mark rfl start)
      | mapping start keys values =>
        exact (hinside _ fun e he => ⟨keys e he, values e he⟩).map fun f hf => hf
    · obtain ⟨es, hes, he⟩ := List.mem_flatten.mp he
      exact hlists es (List.mem_reverse.mp hes) e he

/-- The entries of a mapping one by one. -/
theorem yields_flattenFrom {source : Node → Except Fault (List (Node × Node))}
    (hsource : ∀ n, n.IsAt p → Yields p (fun es => ∀ e ∈ es, EntryIsAt p e) (source n))
    {merged own entries : List (Node × Node)} (hmerged : ∀ e ∈ merged, EntryIsAt p e)
    (hown : ∀ e ∈ own, EntryIsAt p e) (h : ∀ e ∈ entries, EntryIsAt p e) :
    Yields p (Flattened.IsAt p) (flattenFrom source merged own entries) := by
  have hall {merged own : List (Node × Node)} (hmerged : ∀ e ∈ merged, EntryIsAt p e)
      (hown : ∀ e ∈ own, EntryIsAt p e) : Flattened.IsAt p ⟨merged, own.reverse⟩ :=
    List.forall_mem_append.mpr ⟨hmerged, fun e he => hown e (List.mem_reverse.mp he)⟩
  fun_induction flattenFrom source merged own entries with
  | case1 merged own => exact .ok (hall hmerged hown)
  | case2 merged own k v rest _ _ es hes ih =>
    obtain ⟨hentry, hrest⟩ := List.forall_mem_cons.mp h
    have hbrought := hsource v hentry.value
    rw [hes] at hbrought
    exact ih hbrought.result hown hrest
  | case3 merged own k v rest _ _ f hf =>
    have hbrought := hsource v (h _ List.mem_cons_self).value
    rw [hf] at hbrought
    exact .error hbrought.place
  | case4 merged own => exact .ok (hall hmerged hown)
  | case5 merged own k v _ _ e rest ih =>
    obtain ⟨-, he, hrest⟩ := List.forall_mem_cons.mp h |>.imp_right List.forall_mem_cons.mp
    exact ih hmerged (List.forall_mem_cons.mpr ⟨he, hown⟩) hrest
  | case6 merged own k v rest _ _ ih =>
    obtain ⟨hentry, hrest⟩ := List.forall_mem_cons.mp h
    exact ih hmerged
      (List.forall_mem_cons.mpr ⟨⟨hentry.key.withTag .str, hentry.value⟩, hown⟩) hrest
  | case7 merged own k v rest _ _ ih =>
    obtain ⟨hentry, hrest⟩ := List.forall_mem_cons.mp h
    exact ih hmerged (List.forall_mem_cons.mpr ⟨hentry, hown⟩) hrest

/-- The entries of a mapping with its merge keys resolved. -/
theorem yields_flatten (fuel : Nat) {entries : List (Node × Node)}
    (h : ∀ e ∈ entries, EntryIsAt p e) : Yields p (Flattened.IsAt p) (flatten fuel entries) := by
  induction fuel generalizing entries with
  | zero => exact .ok h
  | succ fuel ih =>
    exact yields_flattenFrom (fun n hn => yields_mergeEntries (fun es hes => ih hes) hn)
      (List.forall_mem_nil _) (List.forall_mem_nil _) h

end Mappings

/-! ## Any node -/

section Build

variable {p : Mark → Prop} {key value part : Node → Outcome Data}

/-- One entry of a mapping. -/
theorem isAt_buildEntry (hkey : ∀ n, n.IsAt p → (key n).IsAt p)
    (hvalue : ∀ n, n.IsAt p → (value n).IsAt p) {e : Node × Node} (h : EntryIsAt p e) :
    (buildEntry key value e).IsAt p := by
  have hdatum := (hkey e.1 h.key).map asKey
  unfold buildEntry
  cases hk : (key e.1).map asKey with
  | fault l f =>
    rw [hk] at hdatum
    exact hdatum
  | ok k =>
    dsimp only
    split
    · rename_i f hfault
      unfold keyFault? at hfault
      split at hfault <;> cases hfault
      all_goals
        exact Fault.isAt_of_mark rfl h.key.start
    · refine ((hvalue e.2 h.value).check fun f hf => ?_).map _
      obtain ⟨name, -, rfl⟩ := Option.map_eq_some_iff.mp hf
      exact Fault.isAt_of_no_mark rfl

/-- The entries of a mapping. -/
theorem isAt_buildMapping (hkey : ∀ n, n.IsAt p → (key n).IsAt p)
    (hvalue : ∀ n, n.IsAt p → (value n).IsAt p) (fuel : Nat) {n : Node} (h : n.IsAt p) :
    (buildMapping fuel key value n).IsAt p := by
  unfold buildMapping
  split
  · rename_i entries _
    have hflat := yields_flatten fuel h.entries
    generalize flatten fuel entries = flat at hflat ⊢
    cases hflat with
    | error place => exact place
    | ok hall =>
      refine (Outcome.isAt_all fun o ho => ?_).map _
      obtain ⟨e, he, rfl⟩ := List.mem_map.mp ho
      exact isAt_buildEntry hkey hvalue (hall e he)
  · exact Outcome.isAt_ofExcept (h.yields_fault _)

/-- The single entry of an item. -/
theorem yields_singleEntry (what : PairList) {item : Node} (h : item.IsAt p) :
    Yields p (EntryIsAt p) (singleEntry what item) := by
  unfold singleEntry
  split
  · exact .ok (h.entries _ List.mem_cons_self)
  · exact .error (Fault.isAt_of_mark rfl h.start)
  · exact .error (Fault.isAt_of_mark rfl h.start)

/-- One item of an ordered mapping. -/
theorem isAt_buildOrderedItem (hpart : ∀ n, n.IsAt p → (part n).IsAt p) (seen : List Data)
    {item : Node} (h : item.IsAt p) : (buildOrderedItem part seen item).IsAt p := by
  have hsingle := yields_singleEntry .omap h
  unfold buildOrderedItem
  generalize singleEntry .omap item = entry at hsingle ⊢
  cases hsingle with
  | error place => exact place
  | @ok e hentry =>
    have hk := hpart e.1 hentry.key
    dsimp only
    split
    · rename_i hfault
      rw [hfault] at hk
      exact hk
    · exact Fault.isAt_of_no_mark rfl
    · rename_i hfault _
      rw [hfault] at hk
      exact hk
    · split
      · exact Fault.isAt_of_no_mark rfl
      · exact (hpart e.2 hentry.value).map _

/-- One item of a list of pairs. -/
theorem isAt_buildPair (hpart : ∀ n, n.IsAt p → (part n).IsAt p) {item : Node}
    (h : item.IsAt p) : (buildPair part item).IsAt p := by
  have hsingle := yields_singleEntry .pairs h
  unfold buildPair
  generalize singleEntry .pairs item = entry at hsingle ⊢
  cases hsingle with
  | error place => exact place
  | @ok e hentry => exact ((hpart e.1 hentry.key).both (hpart e.2 hentry.value)).map _

/-- The items of a sequence of pairs. -/
theorem yields_pairItems (what : PairList) {n : Node} (h : n.IsAt p) :
    Yields p (fun items => ∀ item ∈ items, item.IsAt p) (pairItems what n) := by
  unfold pairItems
  split
  · cases h with
    | sequence _ parts => exact .ok parts
  · exact h.yields_fault _

/-- The fault for which a node denotes no data is at the start of a node of its tree. -/
theorem isAt_build (v : Version) (fuel : Nat) (deep : Bool) {n : Node} (h : n.IsAt p) :
    (build v fuel deep n).IsAt p := by
  induction fuel generalizing deep n with
  | zero =>
    exact Fault.isAt_of_mark rfl h.start
  | succ fuel ih =>
    have hlevel : ∀ {α : Type} {o : Outcome α}, o.IsAt p →
        (if deep then o else o.below).IsAt p := by
      intro α o ho
      split
      · exact ho
      · exact ho.below
    have hpart : ∀ n, n.IsAt p → (build v fuel deep n).IsAt p := fun n hn => ih deep hn
    have hentries := isAt_buildMapping (fun n hn => ih true hn) hpart fuel h
    simp only [build]
    split
    · exact Outcome.isAt_ofExcept (yields_buildScalar? h ‹_›)
    · split
      · split
        · refine hlevel ((Outcome.isAt_all fun o ho => ?_).map _)
          obtain ⟨item, hitem, rfl⟩ := List.mem_map.mp ho
          cases h with
          | sequence _ parts => exact hpart item (parts item hitem)
        · exact hlevel (Outcome.isAt_ofExcept (h.yields_fault _))
      · exact hlevel (hentries.map _)
      · exact hlevel (hentries.map _)
      · have hpairs := yields_pairItems .omap h
        generalize pairItems .omap n = pairs at hpairs ⊢
        cases hpairs with
        | error place => exact hlevel place
        | ok hitems =>
          refine hlevel ((Outcome.isAt_all fun o ho => ?_).map _)
          rcases exists_of_mem_buildOrderedItems ho with hnil | ⟨keys, item, hitem, rfl⟩
          · cases hnil
          · exact isAt_buildOrderedItem hpart keys (hitems item hitem)
      · have hpairs := yields_pairItems .pairs h
        generalize pairItems .pairs n = pairs at hpairs ⊢
        cases hpairs with
        | error place => exact hlevel place
        | ok hitems =>
          refine hlevel ((Outcome.isAt_all fun o ho => ?_).map _)
          obtain ⟨item, hitem, rfl⟩ := List.mem_map.mp ho
          exact isAt_buildPair hpart (hitems item hitem)
      · exact Fault.isAt_of_mark rfl h.start

/-- The fault for which the root of a document denotes no data is at the start of a node. -/
theorem yields_data_ofNode (v : Version) {n : Node} (h : n.IsAt p) :
    FailsAt p (Data.ofNode v n) :=
  (isAt_build v (n.height + 1) false h).yields_toExcept

end Build

/-! ## Values -/

/-- Count and depth have no place. -/
theorem yields_checkPart (p : Mark → Prop) (count depth : Nat) :
    FailsAt p (checkPart count depth) :=
  .ite (.error (Fault.isAt_of_no_mark rfl))
    <| .ite (.error (Fault.isAt_of_no_mark rfl)) <| .ok trivial

/-- A key that is too long has no place. -/
theorem yields_entryKey (p : Mark → Prop) (d : Data) : FailsAt p d.entryKey := by
  unfold Data.entryKey
  split
  · exact .ok trivial
  · exact .error (Fault.isAt_of_no_mark rfl)

mutual

/-- The limits of data have no places. -/
theorem yields_restrictFrom (p : Mark → Prop) (seen depth : Nat) (d : Data) :
    FailsAt p (d.restrictFrom seen depth) := by
  unfold Data.restrictFrom
  refine (yields_checkPart p _ _).bind fun _ => ?_
  cases d with
  | scalar _ => exact .ok trivial
  | notANumber => exact .ok trivial
  | bytes _ => exact .error (Fault.isAt_of_no_mark rfl)
  | list items => exact (yields_restrictItems p _ _ items).bind fun _ => .ok trivial
  | tuple _ => exact .error (Fault.isAt_of_no_mark rfl)
  | set _ => exact .error (Fault.isAt_of_no_mark rfl)
  | map _ entries => exact (yields_restrictEntries p _ _ entries).bind fun _ => .ok trivial

/-- The limits of items. -/
theorem yields_restrictItems (p : Mark → Prop) (seen depth : Nat) (ds : List Data) :
    FailsAt p (Data.restrictItems seen depth ds) := by
  match ds with
  | [] => exact .ok trivial
  | d :: ds =>
    unfold Data.restrictItems
    exact (yields_restrictFrom p _ _ d).bind fun _ =>
      (yields_restrictItems p _ _ ds).bind fun _ => .ok trivial

/-- The limits of entries. -/
theorem yields_restrictEntries (p : Mark → Prop) (seen depth : Nat) (es : List (Data × Data)) :
    FailsAt p (Data.restrictEntries seen depth es) := by
  match es with
  | [] => exact .ok trivial
  | (k, d) :: es =>
    unfold Data.restrictEntries
    exact (yields_entryKey p k).bind fun _ => (yields_restrictFrom p _ _ d).bind fun _ =>
      (yields_restrictEntries p _ _ es).bind fun _ => .ok trivial

end

/-- The limits of data have no places. -/
theorem yields_restrict (p : Mark → Prop) (d : Data) : FailsAt p d.restrict :=
  (yields_restrictFrom p 0 0 d).map _

end FrontMatter.Yaml

namespace FrontMatter

open Yaml

/-- A fault for which a text has no value is at a place that a cursor before the text comes to. -/
theorem isAt_of_valueOfText {text : String} {f : Fault} (h : valueOfText text = .error f) :
    f.IsAt (Cursor.ofText text).Ahead := by
  have hvalue : FailsAt (Cursor.ofText text).Ahead (valueOfText text) := by
    unfold valueOfText
    refine .ite ?_ ((yields_document_ofText? text).bind fun d? hd => ?_)
    · exact .error (Fault.isAt_of_no_mark rfl)
    · cases d? with
      | none => exact .ok trivial
      | some d =>
        exact (yields_data_ofNode d.version (hd d rfl).root).bind (yields_restrict _)
  rw [h] at hvalue
  exact hvalue.place

end FrontMatter
