import FrontMatter.Yaml.Data.Build
import Mathlib.Data.List.Induction

/-!
# `FrontMatter.Proofs.StoredEntries` — the entries that a mapping stores

A mapping without merge keys makes data of all its entries, in order, and stores those whose key is
not the same as a key that is stored already.

## Contents

* `Outcome.all_eq_ok_iff`: when several parts have results.
* `stored`, `reverse_foldl_putNew`: the entries that stay.
* `stored_concat`, `stored_append`, `exists_split_of_stored`: how they grow with the entries.
* `flattenFrom_of_no_merge`: a mapping without merge keys has its own entries only.
* `written`, `ofNode_mapping`: the data of all entries, and that of the mapping.
-/

namespace FrontMatter.Yaml

/-! ## Outcomes -/

namespace Outcome

variable {α : Type}

/-- Once there is a fault, there is one that is met first. -/
theorem foldl_earlier_some (os : List (Outcome α)) (first : Nat × Fault) :
    os.foldl earlier (some first) ≠ none := by
  induction os generalizing first with
  | nil => exact Option.some_ne_none first
  | cons o os ih =>
    obtain ⟨next, hnext⟩ : ∃ next, earlier (some first) o = some next := by
      cases o with
      | ok a => exact ⟨first, rfl⟩
      | fault l e =>
        unfold earlier
        dsimp only
        split
        · exact ⟨_, rfl⟩
        · exact ⟨_, rfl⟩
    rw [List.foldl_cons, hnext]
    exact ih next

/-- Where no fault is met, all parts have results. -/
theorem eq_map_ok_of_foldl_earlier {os : List (Outcome α)} (h : os.foldl earlier none = none) :
    os = (os.filterMap value?).map .ok := by
  induction os with
  | nil => rfl
  | cons o os ih =>
    cases o with
    | ok a =>
      have hos := ih h
      exact congrArg (Outcome.ok a :: ·) hos
    | fault l e => exact absurd h (foldl_earlier_some os (l, e))

/-- Several parts have results exactly when each has one. -/
theorem all_eq_ok_iff {os : List (Outcome α)} {as : List α} :
    all os = .ok as ↔ os = as.map .ok := by
  constructor
  · intro h
    unfold all at h
    split at h
    · cases h
    · next hnone =>
      cases h
      exact eq_map_ok_of_foldl_earlier hnone
  · rintro rfl
    have hnone : (as.map Outcome.ok).foldl earlier none = none := by
      induction as with
      | nil => rfl
      | cons a as ih => exact ih
    have hvalues : (as.map Outcome.ok).filterMap value? = as := by
      rw [List.filterMap_map]
      exact List.filterMap_some
    unfold all
    rw [hnone]
    exact congrArg Outcome.ok hvalues

end Outcome

/-! ## The entries that stay -/

/-- The entries that a mapping stores: those whose key is not the same as one before it. -/
def stored (entries : List (Data × Data)) : List (Data × Data) :=
  entries.eraseDupsBy fun e f => f.1.same e.1

/-- Adding the entries one after the other leaves the stored ones. -/
theorem reverse_foldl_putNew (entries : List (Data × Data)) :
    (entries.foldl putNew []).reverse = stored entries := by
  have hgen : ∀ done : List (Data × Data), (entries.foldl putNew done).reverse
      = List.eraseDupsBy.loop (fun e f => f.1.same e.1) entries done := by
    induction entries with
    | nil => intro done; rfl
    | cons e entries ih =>
      intro done
      rw [List.foldl_cons, ih, List.eraseDupsBy.loop]
      unfold putNew hasKey
      cases done.any fun f => f.1.same e.1 <;> rfl
  exact hgen []

/-- An entry is stored after those before it, unless its key is the same as one of theirs. -/
theorem stored_concat (entries : List (Data × Data)) (e : Data × Data) :
    stored (entries ++ [e])
      = if hasKey (stored entries) e.1 then stored entries else stored entries ++ [e] := by
  rw [← reverse_foldl_putNew, ← reverse_foldl_putNew, List.foldl_append]
  show (putNew _ e).reverse = _
  unfold putNew hasKey
  rw [List.any_reverse]
  split
  · rfl
  · exact List.reverse_cons

/-- What is stored of the entries before some others is stored first. -/
theorem stored_append (entries more : List (Data × Data)) :
    ∃ rest, stored (entries ++ more) = stored entries ++ rest := by
  induction more using List.reverseRecOn with
  | nil => exact ⟨[], by simp⟩
  | append_singleton more e ih =>
    obtain ⟨rest, hrest⟩ := ih
    rw [← List.append_assoc, stored_concat, hrest]
    split
    · exact ⟨rest, rfl⟩
    · exact ⟨rest ++ [e], List.append_assoc _ _ _⟩

/-- An entry that is stored was written where its key was new. -/
theorem exists_split_of_stored {entries before after : List (Data × Data)} {e : Data × Data}
    (h : stored entries = before ++ e :: after) :
    ∃ pre post, entries = pre ++ e :: post ∧ stored pre = before ∧ hasKey before e.1 = false := by
  induction entries using List.reverseRecOn generalizing after with
  | nil => simp [stored] at h
  | append_singleton entries f ih =>
    rw [stored_concat] at h
    split at h
    · obtain ⟨pre, post, rfl, hpre, hnew⟩ := ih h
      exact ⟨pre, post ++ [f], by simp, hpre, hnew⟩
    · next hnew =>
      -- The entry is the last one, or it was stored before.
      rcases List.eq_nil_or_concat after with rfl | ⟨init, g, rfl⟩
      · obtain ⟨hbefore, hf⟩ := List.append_inj' h rfl
        obtain rfl := List.head_eq_of_cons_eq hf
        exact ⟨entries, [], rfl, hbefore, by simpa [hbefore] using hnew⟩
      · have hsplit : before ++ e :: init.concat g = (before ++ e :: init) ++ [g] := by simp
        rw [hsplit] at h
        have hinit : stored entries = before ++ e :: init := (List.append_inj' h rfl).1
        obtain ⟨pre, post, rfl, hpre, hkey⟩ := ih hinit
        exact ⟨pre, post ++ [f], by simp, hpre, hkey⟩

/-- Dropping repeated items, told apart by what a function makes of them, before or after applying
the function. -/
theorem eraseDupsBy_map {α β : Type} (f : α → β) (r : β → β → Bool) (l : List α) :
    (l.map f).eraseDupsBy r = (l.eraseDupsBy fun a b => r (f a) (f b)).map f := by
  have hgen : ∀ done : List α, List.eraseDupsBy.loop r (l.map f) (done.map f)
      = (List.eraseDupsBy.loop (fun a b => r (f a) (f b)) l done).map f := by
    induction l with
    | nil =>
      intro done
      exact (List.map_reverse).symm
    | cons a l ih =>
      intro done
      rw [List.map_cons, List.eraseDupsBy.loop, List.eraseDupsBy.loop, List.any_map]
      cases hany : done.any (r (f a) ∘ f) with
      | false =>
        have hany' : done.any (fun b => r (f a) (f b)) = false := hany
        rw [hany']
        exact ih (a :: done)
      | true =>
        have hany' : done.any (fun b => r (f a) (f b)) = true := hany
        rw [hany']
        exact ih done
  exact hgen []

/-! ## Mappings without merge keys -/

/-- An entry without merge keys, as it is made: a key `=` is a text. -/
def asOwn (e : Node × Node) : Node × Node :=
  if e.1.tag == .value then (e.1.withTag .str, e.2) else e

/-- An entry without merge key is one of the mapping's own. -/
theorem flattenFrom_cons_own (source : Node → Except Fault (List (Node × Node)))
    (merged own rest : List (Node × Node)) {e : Node × Node} (h : e.1.tag ≠ .merge) :
    flattenFrom source merged own (e :: rest)
      = flattenFrom source merged (asOwn e :: own) rest := by
  obtain ⟨k, v⟩ := e
  have hk : ¬ (k.tag == .merge) = true := by simpa using h
  have hstep : ∀ own, flattenFrom source merged own ((k, v) :: rest)
      = if k.tag == .value then flattenFrom source merged ((k.withTag .str, v) :: own) rest
        else flattenFrom source merged ((k, v) :: own) rest := by
    intro own
    cases rest with
    | nil => exact if_neg hk
    | cons f rest => exact if_neg hk
  rw [hstep]
  unfold asOwn
  dsimp only
  split <;> rfl

/-- A mapping without merge keys has its own entries only. -/
theorem flattenFrom_of_no_merge {source : Node → Except Fault (List (Node × Node))}
    {entries : List (Node × Node)} (h : ∀ e ∈ entries, e.1.tag ≠ .merge)
    (own : List (Node × Node)) :
    flattenFrom source [] own entries = .ok ⟨[], own.reverse ++ entries.map asOwn⟩ := by
  induction entries generalizing own with
  | nil =>
    rw [flattenFrom, List.map_nil, List.append_nil]
  | cons e entries ih =>
    rw [flattenFrom_cons_own _ _ _ _ (h e List.mem_cons_self),
      ih fun f hf => h f (List.mem_cons_of_mem e hf)]
    simp

/-- An entry whose key makes a scalar is made of that scalar and its value. -/
theorem buildEntry_scalar {key value : Node → Outcome Data} {e : Node × Node} {s : Scalar}
    {d : Data} (hkey : key e.1 = .ok (.scalar s)) (hvalue : value e.2 = .ok d) :
    buildEntry key value e = .ok (.scalar s, d) := by
  unfold buildEntry
  rw [hkey, hvalue]
  rfl

/-- The data of all entries of a mapping, in order. -/
def written (v : Version) (entries : List (Node × Node)) : Outcome (List (Data × Data)) :=
  let fuel := Node.heightEntries entries + 1
  Outcome.all ((entries.map asOwn).map (buildEntry (build v fuel true) (build v fuel false)))

/-- A mapping without merge keys stores its written entries. -/
theorem ofNode_mapping (v : Version) {entries : List (Node × Node)}
    (h : ∀ e ∈ entries, e.1.tag ≠ .merge) (m : Mark) :
    Data.ofNode v (.mapping .map entries m)
      = ((written v entries).map fun es => .map false (stored es)).toExcept := by
  have hflatten : flatten (Node.heightEntries entries + 1) entries
      = .ok ⟨[], entries.map asOwn⟩ := flattenFrom_of_no_merge h []
  have hmapping : buildMapping (Node.heightEntries entries + 1)
      (build v (Node.heightEntries entries + 1) true)
      (build v (Node.heightEntries entries + 1) false) (.mapping .map entries m)
        = (written v entries).map stored := by
    unfold buildMapping
    dsimp only
    rw [hflatten]
    unfold buildEntries written
    dsimp only
    simp only [Flattened.all, List.nil_append, List.isEmpty_nil, if_true]
    congr 1
    funext es
    exact reverse_foldl_putNew es
  unfold Data.ofNode Node.height build
  show ((buildMapping _ _ _ _).map (Data.map false)).below.toExcept = _
  rw [hmapping]
  cases written v entries <;> rfl

end FrontMatter.Yaml
