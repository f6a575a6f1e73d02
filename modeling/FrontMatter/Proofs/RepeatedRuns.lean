import FrontMatter.Proofs.IdOwners

/-!
# `FrontMatter.Proofs.RepeatedRuns` — running a batch again finds the same again

While a batch runs for the first time, a document is checked against the owners that the documents
before it have left; when the batch runs again, against those that all of them have left. Owners are
never replaced, and a document that becomes an owner is one from then on. So every document is told
the same, also where several of them have one path, or where an id had an owner before.

## Contents

* `Registry.Keeps`: the owners of one registry are owners in another one.
* `claimId_again`, `checkMapping_again`, `judge_again`: one document, judged again later.
* `judgeAll_again`: several documents.
* `runBatch_again`: a batch.
-/

namespace FrontMatter

/-! ## Owners that are kept -/

/-- Every owner in an earlier registry is one in a later registry. -/
def Registry.Keeps (earlier later : Registry) : Prop :=
  ∀ x p, earlier.owner? x = some p → later.owner? x = some p

/-- A registry has its own owners. -/
theorem Registry.Keeps.refl (registry : Registry) : registry.Keeps registry :=
  fun _ _ h => h

/-- Owners that are kept twice are kept. -/
theorem Registry.Keeps.trans {first second third : Registry} (h : first.Keeps second)
    (h' : second.Keeps third) : first.Keeps third :=
  fun x p hp => h' x p (h x p hp)

/-- Documents leave all owners that there were. -/
theorem keeps_judgeAll (context : Context) (registry : Registry) (sources : List Source) :
    registry.Keeps (judgeAll context registry sources).2 :=
  fun _ _ h => owner?_judgeAll_of_owner h

/-! ## One document -/

/-- A claim that is made again is told the same, and changes nothing. -/
theorem claimId_again {s : Subject} {registry later : Registry}
    (h : (claimId s registry).2.Keeps later) :
    claimId s later = ((claimId s registry).1, later) := by
  by_cases hid : ∃ x, s.entries.get? "id" = some (.str x)
  · obtain ⟨x, hx⟩ := hid
    cases howner : registry.owner? x with
    | none =>
      -- The first claim has made the file the owner, so the second one finds itself.
      rw [claimId_of_new hx howner] at h ⊢
      have hself : later.owner? x = some s.file := by
        apply h
        simp [Registry.owner?, Table.get?_put]
      rw [claimId_of_owned hx hself, if_pos rfl]
    | some owner =>
      rw [claimId_of_owned hx howner] at h ⊢
      rw [claimId_of_owned hx (h x owner howner)]
  · have hno : ∀ x, s.entries.get? "id" ≠ some (.str x) := fun x hx => hid ⟨x, hx⟩
    rw [claimId_of_no_id registry hno, claimId_of_no_id later hno]

/-- A mapping that is checked again gives the same findings or stops at the same rule, and changes
nothing. -/
theorem checkMapping_again {s : Subject} {registry later : Registry}
    (h : (checkMapping s registry).2.Keeps later) :
    checkMapping s later = ((checkMapping s registry).1, later) := by
  unfold checkMapping at h ⊢
  cases hbefore : runRules (rulesBeforeClaim s.kind) s with
  | error e => rfl
  | ok before =>
    rw [hbefore] at h
    cases hafter : runRules (rulesAfterClaim s.kind) s with
    | error e =>
      -- The claim has been made before the check stops.
      rw [hafter] at h
      have hclaim := claimId_again h
      simp only [hclaim]
    | ok after =>
      rw [hafter] at h
      have hclaim := claimId_again h
      simp only [hclaim]

/-- A document that is judged again is told the same, and changes nothing. -/
theorem judge_again {context : Context} {s : Source} {registry later : Registry}
    (h : (judge context registry s).2.Keeps later) :
    judge context later s = ((judge context registry s).1, later) := by
  by_cases hgives : ∃ given, s.Gives context given
  · obtain ⟨given, hgiven⟩ := hgives
    rw [judge_of_gives hgiven] at h ⊢
    rw [judge_of_gives hgiven]
    have hcheck : checkMapping given later = ((checkMapping given registry).1, later) := by
      apply checkMapping_again
      cases hfirst : checkMapping given registry with
      | mk result after =>
        rw [hfirst] at h
        cases result <;> exact h
    rw [hcheck]
    cases checkMapping given registry with
    | mk result after => cases result <;> rfl
  · obtain ⟨ds, hjudge, -⟩ := judge_of_not_gives fun given hgiven => hgives ⟨given, hgiven⟩
    rw [hjudge, hjudge]

/-! ## Several documents -/

/-- Documents that are judged again are told the same, each in its turn, and change nothing. -/
theorem judgeAll_again {context : Context} {sources : List Source} {registry later : Registry}
    (h : (judgeAll context registry sources).2.Keeps later) :
    judgeAll context later sources = ((judgeAll context registry sources).1, later) := by
  induction sources generalizing registry with
  | nil => rfl
  | cons s rest ih =>
    rw [judgeAll_cons] at h ⊢
    -- What the first document leaves is kept by the others, and so up to the later registry.
    have hfirst : (judge context registry s).2.Keeps later :=
      (keeps_judgeAll context _ rest).trans h
    have hagain : judge context later s = ((judge context registry s).1, later) :=
      judge_again hfirst
    rw [judgeAll_cons, hagain, ih h]

/-! ## Batches -/

/-- A batch that runs a second time, with what the first run has left, finds the same once more, in
the same order; it leaves the owners as they are, and keeps the same documents and contents. This
holds from whatever findings and owners there were, for documents of every kind, also where several
have one path. -/
theorem runBatch_again (context : Context) (workers : Int) (state : RunState)
    (sources : List Source) :
    let run := runBatch context workers state sources
    let again := runBatch context workers run.1 sources
    ∃ found, run.1.collector = state.collector.extend found
      ∧ again.1.collector = run.1.collector.extend found
      ∧ again.1.registry = run.1.registry
      ∧ again.2.documents = run.2.documents ∧ again.2.contents = run.2.contents := by
  intro run again
  let judged := judgeAll context state.registry (sortSources sources)
  have hrun : run.1 = ⟨judged.2, state.collector.extend judged.1⟩ :=
    (runBatch_eq context workers state sources).1
  have hjudged : judgeAll context run.1.registry (sortSources sources) = (judged.1, judged.2) := by
    rw [hrun]
    exact judgeAll_again (Registry.Keeps.refl judged.2)
  have hagain : again.1 = ⟨judged.2, run.1.collector.extend judged.1⟩ := by
    have hstate := (runBatch_eq context workers run.1 sources).1
    rwa [hjudged] at hstate
  refine ⟨judged.1, congrArg _ hrun, congrArg _ hagain, ?_, ?_, ?_⟩
  · rw [hagain, hrun]
  · exact (documents_runBatch context workers run.1 sources).trans
      (documents_runBatch context workers state sources).symm
  · exact (contents_runBatch context workers run.1 sources).trans
      (contents_runBatch context workers state sources).symm

end FrontMatter
