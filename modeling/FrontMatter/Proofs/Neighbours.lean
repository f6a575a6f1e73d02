import FrontMatter.Proofs.SourceOrder

/-!
# `FrontMatter.Proofs.Neighbours` — documents of a batch touch each other through their ids only

The one thing that the check of a document takes from the documents before it is who owns its id.
So two batches find and keep the same of a document that both of them have, but for the finding
that its id has another owner; and documents that come after all others change nothing.

## Contents

* `judge_others_eq`, `length_duplicates_judge`: what the owners of ids change about one document.
* `Source.IsAloneIn`, `AgreesOn`: a document and what two runs leave of it.
* `sortSources_filter`, `sortSources_of_addedAfter`: sorting a batch that documents are added to.
* `AddedAfter`, `Extends`: documents that come last, and what a run with them leaves.
* `runBatch_touches_only_owners`: both laws, for all batches.
-/

namespace FrontMatter

/-! ## One document -/

/-- A finding that is not about the owner of an id. -/
def Diagnostic.isOther (d : Diagnostic) : Bool :=
  !d.isDuplicate

/-- The claim of an id gives findings about its owner only. -/
theorem filter_isOther_claimId (s : Subject) (registry : Registry) (offset : Int) :
    ((claimId s registry).1.map (Diagnostic.shift offset)).filter Diagnostic.isOther = [] := by
  rw [List.filter_eq_nil_iff]
  intro d hd hother
  obtain ⟨e, he, rfl⟩ := List.mem_map.mp hd
  obtain ⟨-, -, hkind, -⟩ := (claimId_reports s registry).breaks_of_mem he
  have hdup : (e.shift offset).isDuplicate = true := beq_iff_eq.mpr hkind
  rw [Diagnostic.isOther, hdup] at hother
  cases hother

/-- The claim of an id gives one finding at most. -/
theorem length_claimId (s : Subject) (registry : Registry) :
    (claimId s registry).1.length ≤ 1 := by
  unfold claimId
  split
  · exact Nat.zero_le 1
  · split
    · exact Nat.zero_le 1
    · exact Nat.le_refl 1

/-- Whoever owns the ids, the findings about a document that are not about the owner of its id are
the same. -/
theorem judge_others_eq (context : Context) (s : Source) (registry registry' : Registry) :
    (judge context registry s).1.filter Diagnostic.isOther
      = (judge context registry' s).1.filter Diagnostic.isOther := by
  by_cases hgives : ∃ given, s.Gives context given
  · obtain ⟨given, hgiven⟩ := hgives
    rw [judge_of_gives hgiven, judge_of_gives hgiven]
    unfold checkMapping
    cases runRules (rulesBeforeClaim given.kind) given with
    | error e => rfl
    | ok before =>
      cases runRules (rulesAfterClaim given.kind) given with
      | error e => rfl
      | ok after =>
        -- Only the findings between those of the two groups of rules come from the claim.
        show (List.map _ (before ++ (claimId given registry).1 ++ after)).filter _
          = (List.map _ (before ++ (claimId given registry').1 ++ after)).filter _
        simp only [List.map_append, List.filter_append, filter_isOther_claimId]
  · obtain ⟨ds, hjudge, -⟩ := judge_of_not_gives fun given hgiven => hgives ⟨given, hgiven⟩
    rw [hjudge, hjudge]

/-- A document is told at most once that its id has another owner. -/
theorem length_duplicates_judge (context : Context) (s : Source) (registry : Registry) :
    ((judge context registry s).1.filter Diagnostic.isDuplicate).length ≤ 1 := by
  by_cases hclaims : ∃ x, s.Claims context x
  · obtain ⟨x, given, hgiven, hid, hversion⟩ := hclaims
    obtain ⟨-, htold, hsilent⟩ := judge_of_claimed hgiven ⟨shows_of_get? hid, hversion⟩ registry
    by_cases hderived : given.kind = .binding → given.Shows "derived_from"
    · rw [htold hderived, List.length_map]
      exact length_claimId given registry
    · rw [hsilent hderived]
      exact Nat.zero_le 1
  · rw [(judge_of_not_claims (fun x hx => hclaims ⟨x, hx⟩) registry).2]
    exact Nat.zero_le 1

/-! ## A document in two batches -/

/-- A document of a batch, no other document of which has its path. -/
def Source.IsAloneIn (s : Source) (sources : List Source) : Prop :=
  ∃ pre post, sources = pre ++ s :: post ∧ s.path ∉ (pre ++ post).map Source.path

/-- A document is alone with its path in every order of the batch. -/
theorem Source.IsAloneIn.of_perm {s : Source} {sources others : List Source}
    (h : s.IsAloneIn sources) (hperm : sources.Perm others) : s.IsAloneIn others := by
  obtain ⟨pre, post, rfl, hpath⟩ := h
  have hmem : s ∈ others := hperm.mem_iff.mp (List.mem_append_right _ List.mem_cons_self)
  obtain ⟨before, after, rfl⟩ := List.append_of_mem hmem
  refine ⟨before, after, rfl, ?_⟩
  have hrest : (pre ++ post).Perm (before ++ after) :=
    (List.perm_middle.symm.trans (hperm.trans List.perm_middle)).cons_inv
  rw [← (hrest.map Source.path).mem_iff]
  exact hpath

/-- What a run leaves of a document: its findings in some place of the run, and its own values. -/
theorem exists_judge_of_isAloneIn {context : Context} {s : Source} {sources : List Source}
    (h : s.IsAloneIn sources) (workers : Int) (state : RunState) :
    let run := runBatch context workers state sources
    ∃ found registry, run.1.collector = state.collector.extend found
      ∧ findingsIn s.path found = (judge context registry s).1
      ∧ run.2.documents.get? s.path = s.document?
      ∧ run.2.contents.get? s.path = s.content := by
  intro run
  obtain ⟨pre, post, hsplit, hpath⟩ := h.of_perm (sortSources_perm sources).symm
  rw [List.map_append, List.mem_append, not_or] at hpath
  have hkept : ∀ {α : Type} (value : Source → Option α),
      (keepValues value [] (sortSources sources)).get? s.path = value s := by
    intro α value
    rw [hsplit, get?_keepValues_split value [] pre hpath.2,
      get?_keepValues_of_not_mem value [] hpath.1]
    exact Option.or_none
  have hcollector := congrArg RunState.collector (runBatch_eq context workers state sources).1
  refine ⟨_, (judgeAll context state.registry pre).2, hcollector, ?_, ?_, ?_⟩
  · rw [hsplit]
    exact findingsIn_judgeAll hpath.1 hpath.2
  · rw [documents_runBatch, hkept]
  · rw [contents_runBatch, hkept]

/-- Two runs leave the same of a document: the findings in its file, but for one at most in each run
that its id has another owner, and its document and content, if there are any. -/
structure AgreesOn (path : String) (found found' : List Diagnostic) (kept kept' : Batch) :
    Prop where
  findings : (findingsIn path found).filter Diagnostic.isOther
    = (findingsIn path found').filter Diagnostic.isOther
  once : (duplicatesIn path found).length ≤ 1
  once' : (duplicatesIn path found').length ≤ 1
  document : kept.documents.get? path = kept'.documents.get? path
  content : kept.contents.get? path = kept'.contents.get? path

/-! ## Documents that come last -/

/-- Documents in two parts, those with paths less than a given one and those with others, are cut
between the parts. -/
theorem cutAt_append {path : String} {before after : List Source}
    (hbefore : ∀ t ∈ before, t.path < path) (hafter : ∀ t ∈ after, path ≤ t.path) :
    (before ++ after).span (fun t => t.path < path) = (before, after) := by
  have hnone : after.takeWhile (fun t => t.path < path) = [] := by
    cases after with
    | nil => rfl
    | cons t after =>
      have ht : ¬ t.path < path := String.not_lt.mpr (hafter t List.mem_cons_self)
      exact List.takeWhile_cons_of_neg (by simpa using ht)
  have hall : ∀ t ∈ before, decide (t.path < path) = true :=
    fun t ht => decide_eq_true (hbefore t ht)
  have hdrop : after.dropWhile (fun t => t.path < path) = after := by
    have hsplit :=
      List.takeWhile_append_dropWhile (p := fun t : Source => t.path < path) (l := after)
    rw [hnone] at hsplit
    exact hsplit
  rw [List.span_eq_takeWhile_dropWhile, List.takeWhile_append_of_pos hall,
    List.dropWhile_append_of_pos hall, hnone, hdrop, List.append_nil]

/-- A sorted batch has the documents with lesser paths in front of those with others. -/
theorem exists_cut_sortSources (s : Source) (rest : List Source) :
    ∃ before after, sortSources rest = before ++ after
      ∧ sortSources (s :: rest) = before ++ s :: after
      ∧ (∀ t ∈ before, t.path < s.path) ∧ ∀ t ∈ after, s.path ≤ t.path := by
  obtain ⟨before, after, hcons, hrest, hbefore⟩ :=
    List.mergeSort_cons mayPrecede_trans mayPrecede_total s rest
  have hsorted : SortedByPath (before ++ s :: after) := hcons ▸ sortedByPath_sortSources (s :: rest)
  refine ⟨before, after, hrest, hcons, ?_, ?_⟩
  · intro t ht
    simpa using hbefore t ht
  · exact (List.pairwise_cons.mp (List.pairwise_append.mp hsorted).2.1).1

/-- One more document stands in a sorted batch behind the documents with lesser paths. -/
theorem sortSources_cons {s : Source} {rest before after : List Source}
    (hrest : sortSources rest = before ++ after) (hbefore : ∀ t ∈ before, t.path < s.path)
    (hafter : ∀ t ∈ after, s.path ≤ t.path) :
    sortSources (s :: rest) = before ++ s :: after := by
  obtain ⟨lesser, others, hcut, hcons, hlesser, hothers⟩ := exists_cut_sortSources s rest
  have hsame := cutAt_append hlesser hothers
  rw [← hcut, hrest, cutAt_append hbefore hafter] at hsame
  obtain ⟨rfl, rfl⟩ := Prod.mk.inj hsame
  exact hcons

/-- Sorting some of the documents of a batch gives these documents as they stand in the sorted
batch. -/
theorem sortSources_filter (isKept : Source → Bool) (sources : List Source) :
    sortSources (sources.filter isKept) = (sortSources sources).filter isKept := by
  induction sources with
  | nil => simp [sortSources]
  | cons s rest ih =>
    obtain ⟨before, after, hrest, hcons, hbefore, hafter⟩ := exists_cut_sortSources s rest
    rw [hrest, List.filter_append] at ih
    rw [hcons, List.filter_append]
    by_cases hs : isKept s = true
    · rw [List.filter_cons_of_pos hs, List.filter_cons_of_pos hs]
      apply sortSources_cons ih
      · intro t ht
        exact hbefore t (List.mem_of_mem_filter ht)
      · intro t ht
        exact hafter t (List.mem_of_mem_filter ht)
    · rw [List.filter_cons_of_neg hs, List.filter_cons_of_neg hs]
      exact ih

/-- Sorted documents of two kinds, where those of the one kind have lesser paths than those of the
other, are the documents of the one kind and then those of the other. -/
theorem eq_filter_append {sources : List Source} (hsorted : SortedByPath sources)
    {isOld : Source → Bool} (h : ∀ s ∈ sources, ∀ t ∈ sources, isOld s = true →
      isOld t = false → s.path < t.path) :
    sources = sources.filter isOld ++ sources.filter fun s => !isOld s := by
  induction sources with
  | nil => rfl
  | cons s rest ih =>
    obtain ⟨hleast, hrest⟩ := List.pairwise_cons.mp hsorted
    have hlater := ih hrest fun t ht u hu =>
      h t (List.mem_cons_of_mem s ht) u (List.mem_cons_of_mem s hu)
    cases hs : isOld s with
    | true =>
      rw [List.filter_cons_of_pos hs, List.filter_cons_of_neg (by simp [hs]), List.cons_append,
        ← hlater]
    | false =>
      -- A document that comes last has no other kind behind it.
      have hnone : rest.filter isOld = [] := by
        rw [List.filter_eq_nil_iff]
        intro t ht hold
        have hlt := h t (List.mem_cons_of_mem s ht) s List.mem_cons_self hold hs
        exact String.not_lt.mpr (hleast t ht) hlt
      rw [hnone, List.nil_append] at hlater
      rw [List.filter_cons_of_neg (by simp [hs]), List.filter_cons_of_pos (by simp [hs]), hnone,
        ← hlater]
      rfl

/-- A batch with documents added to it in any places, whose paths come after all paths that were
there. The documents that were there stay in their order. -/
structure AddedAfter (small added big : List Source) : Prop where
  perm : big.Perm (small ++ added)
  kept : small.Sublist big
  after : ∀ s ∈ small, ∀ t ∈ added, s.path < t.path

/-- Documents that come after all others are sorted behind them. -/
theorem sortSources_of_addedAfter {small added big : List Source} (h : AddedAfter small added big) :
    ∃ rest, rest.Perm added ∧ sortSources big = sortSources small ++ rest := by
  let isOld : Source → Bool := fun s => decide (s.path ∈ small.map Source.path)
  have hold : ∀ s ∈ small, isOld s = true := fun s hs => decide_eq_true (List.mem_map_of_mem hs)
  have hnew : ∀ t ∈ added, isOld t = false := by
    intro t ht
    apply decide_eq_false
    intro hmem
    obtain ⟨s, hs, hpath⟩ := List.mem_map.mp hmem
    exact String.lt_irrefl _ (hpath ▸ h.after s hs t ht)
  have hsmall : small.filter isOld = small := List.filter_eq_self.mpr hold
  have hadded : added.filter isOld = [] := by
    rw [List.filter_eq_nil_iff]
    intro t ht hold
    rw [hnew t ht] at hold
    cases hold
  -- The documents that were there are those of the old kind.
  have hbig : big.filter isOld = small := by
    have hsub : (small.filter isOld).Sublist (big.filter isOld) := h.kept.filter isOld
    have hlength := (h.perm.filter isOld).length_eq
    rw [List.filter_append, hadded, List.append_nil] at hlength
    rw [← hsub.eq_of_length hlength.symm, hsmall]
  refine ⟨(sortSources big).filter fun s => !isOld s, ?_, ?_⟩
  · have hperm := ((sortSources_perm big).trans h.perm).filter fun s => !isOld s
    rw [List.filter_append] at hperm
    have hnone : (small.filter fun s => !isOld s) = [] := by
      rw [List.filter_eq_nil_iff]
      intro s hs
      rw [hold s hs]
      exact Bool.false_ne_true
    have hall : (added.filter fun s => !isOld s) = added := by
      rw [List.filter_eq_self]
      intro t ht
      rw [hnew t ht]
      rfl
    rw [hnone, hall] at hperm
    exact hperm
  · have hlt : ∀ s ∈ sortSources big, ∀ t ∈ sortSources big, isOld s = true →
        isOld t = false → s.path < t.path := by
      intro s hs t ht hs' ht'
      have hs : s ∈ small := by
        rw [← hbig]
        exact List.mem_filter.mpr ⟨(sortSources_perm big).mem_iff.mp hs, hs'⟩
      have ht : t ∈ small ++ added := h.perm.mem_iff.mp ((sortSources_perm big).mem_iff.mp ht)
      rcases List.mem_append.mp ht with ht | ht
      · rw [hold t ht] at ht'
        cases ht'
      · exact h.after s hs t ht
    have hparts := eq_filter_append (sortedByPath_sortSources big) hlt
    rw [← sortSources_filter, hbig] at hparts
    exact hparts

/-! ## What documents that come last leave -/

section Kept

variable {α : Type} (value : Source → Option α)

/-- A document whose path a table does not have is added behind the table. -/
theorem keepValue_append {kept : Entries α} {s : Source} (h : s.path ∉ kept.keys)
    (more : Entries α) : keepValue value (kept ++ more) s = kept ++ keepValue value more s := by
  unfold keepValue
  cases value s with
  | none => rfl
  | some v =>
    have hnew : kept.holds s.path = false := by
      rw [← Bool.not_eq_true, Table.holds_iff]
      exact h
    exact Table.put_append hnew more v

/-- So are documents whose paths it does not have. -/
theorem keepValues_append_of_new {kept : Entries α} {sources : List Source}
    (h : ∀ s ∈ sources, s.path ∉ kept.keys) (more : Entries α) :
    keepValues value (kept ++ more) sources = kept ++ keepValues value more sources := by
  induction sources generalizing more with
  | nil => rfl
  | cons s rest ih =>
    show keepValues value (keepValue value (kept ++ more) s) rest = _
    rw [keepValue_append value (h s List.mem_cons_self)]
    exact ih (fun t ht => h t (List.mem_cons_of_mem s ht)) (keepValue value more s)

/-- A table has the paths that it had and those of the documents. -/
theorem mem_keys_keepValues {kept : Entries α} {sources : List Source} {path : String}
    (h : path ∈ (keepValues value kept sources).keys) :
    path ∈ kept.keys ∨ path ∈ sources.map Source.path := by
  by_cases hmem : path ∈ sources.map Source.path
  · exact .inr hmem
  · left
    rw [← Table.holds_iff, Table.holds_eq_isSome] at h ⊢
    rw [get?_keepValues_of_not_mem value kept hmem] at h
    exact h

/-- Documents with greater paths are added behind a table of others. -/
theorem exists_keepValues_append {sources rest : List Source}
    (h : ∀ s ∈ sources, ∀ t ∈ rest, s.path < t.path) :
    ∃ more, keepValues value [] (sources ++ rest) = keepValues value [] sources ++ more
      ∧ ∀ path ∈ Table.keys more, path ∈ rest.map Source.path := by
  refine ⟨keepValues value [] rest, ?_, ?_⟩
  · have hnew : ∀ t ∈ rest, t.path ∉ (keepValues value [] sources).keys := by
      intro t ht hmem
      rcases mem_keys_keepValues value hmem with hmem | hmem
      · cases hmem
      · obtain ⟨s, hs, hpath⟩ := List.mem_map.mp hmem
        exact String.lt_irrefl _ (hpath ▸ h s hs t ht)
    rw [keepValues_append]
    have hbehind := keepValues_append_of_new value hnew []
    rw [List.append_nil] at hbehind
    exact hbehind
  · intro path hpath
    rcases mem_keys_keepValues value hpath with hmem | hmem
    · cases hmem
    · exact hmem

end Kept

/-- An owner after some documents was one before them or is one of them. -/
theorem owner_of_judgeAll {context : Context} {registry : Registry} {sources : List Source}
    {x p : String} (h : (judgeAll context registry sources).2.owner? x = some p) :
    registry.owner? x = some p ∨ p ∈ sources.map Source.path := by
  induction sources generalizing registry with
  | nil => exact .inl h
  | cons s rest ih =>
    rw [judgeAll_cons] at h
    rcases ih h with hfirst | hrest
    · rcases owner?_judge.mp hfirst with hbefore | ⟨-, -, rfl⟩
      · exact .inl hbefore
      · exact .inr List.mem_cons_self
    · exact .inr (List.mem_cons_of_mem _ hrest)

/-- What a run leaves stays when documents are added to it: its findings, documents, contents and
owners, and whatever is more is in the files of the added documents. -/
structure Extends (added : List Source) (run more : RunState × Batch) : Prop where
  findings : ∃ ds, more.1.collector = run.1.collector.extend ds
    ∧ ∀ d ∈ ds, d.file ∈ added.map Source.path
  documents : ∃ es, more.2.documents = run.2.documents ++ es
    ∧ ∀ path ∈ Table.keys es, path ∈ added.map Source.path
  contents : ∃ es, more.2.contents = run.2.contents ++ es
    ∧ ∀ path ∈ Table.keys es, path ∈ added.map Source.path
  owners : ∀ x p, run.1.registry.owner? x = some p → more.1.registry.owner? x = some p
  newOwners : ∀ x p, more.1.registry.owner? x = some p →
    run.1.registry.owner? x = some p ∨ p ∈ added.map Source.path

/-- Documents that come after all others change nothing that was left without them. -/
theorem extends_of_addedAfter {small added big : List Source} (h : AddedAfter small added big)
    (context : Context) (workers workers' : Int) (state : RunState) :
    Extends added (runBatch context workers state small) (runBatch context workers' state big) := by
  obtain ⟨rest, hrest, hsort⟩ := sortSources_of_addedAfter h
  have hpaths : ∀ {path}, path ∈ rest.map Source.path → path ∈ added.map Source.path :=
    fun hmem => (hrest.map Source.path).mem_iff.mp hmem
  have hlt : ∀ s ∈ sortSources small, ∀ t ∈ rest, s.path < t.path := by
    intro s hs t ht
    exact h.after s ((sortSources_perm small).mem_iff.mp hs) t (hrest.mem_iff.mp ht)
  have hsmall := (runBatch_eq context workers state small).1
  have hbig := (runBatch_eq context workers' state big).1
  rw [hsort, judgeAll_append] at hbig
  constructor
  · refine
      ⟨(judgeAll context (judgeAll context state.registry (sortSources small)).2 rest).1, ?_, ?_⟩
    · rw [hsmall, hbig]
      simp [Collector.extend]
    · intro d hd
      obtain ⟨t, ht, before, hjudged⟩ := exists_of_mem_judgeAll hd
      rw [file_of_mem_judge hjudged]
      exact hpaths (List.mem_map_of_mem ht)
  · obtain ⟨es, hes, hkeys⟩ := exists_keepValues_append Source.document? hlt
    refine ⟨es, ?_, fun path hpath => hpaths (hkeys path hpath)⟩
    rw [documents_runBatch, documents_runBatch, hsort, hes]
  · obtain ⟨es, hes, hkeys⟩ := exists_keepValues_append Source.content hlt
    refine ⟨es, ?_, fun path hpath => hpaths (hkeys path hpath)⟩
    rw [contents_runBatch, contents_runBatch, hsort, hes]
  · intro x p howner
    rw [hsmall] at howner
    rw [hbig]
    exact owner?_judgeAll_of_owner howner
  · intro x p howner
    rw [hbig] at howner
    rw [hsmall]
    rcases owner_of_judgeAll howner with hbefore | hnew
    · exact .inl hbefore
    · exact .inr (hpaths hnew)

/-! ## The law -/

/-- Documents of a run touch each other through the owners of their ids only. A document that two
batches have, each without another one at its path, leaves the same in both, whatever the other
documents are and whoever owned the ids before, but for one finding at most in each run that its id
has another owner. And documents with paths after all others change nothing of what a batch leaves
without them. -/
theorem runBatch_touches_only_owners (context : Context) (workers workers' : Int) :
    (∀ (s : Source) (ours theirs : List Source) (state state' : RunState),
      s.IsAloneIn ours → s.IsAloneIn theirs →
        let run := runBatch context workers state ours
        let other := runBatch context workers' state' theirs
        ∃ found found', run.1.collector = state.collector.extend found
          ∧ other.1.collector = state'.collector.extend found'
          ∧ AgreesOn s.path found found' run.2 other.2)
    ∧ ∀ (small added big : List Source) (state : RunState), AddedAfter small added big →
        Extends added (runBatch context workers state small)
          (runBatch context workers' state big) := by
  constructor
  · intro s ours theirs state state' hours htheirs run other
    obtain ⟨found, registry, hfound, hjudged, hdocument, hcontent⟩ :=
      @exists_judge_of_isAloneIn context s ours hours workers state
    obtain ⟨found', registry', hfound', hjudged', hdocument', hcontent'⟩ :=
      @exists_judge_of_isAloneIn context s theirs htheirs workers' state'
    refine ⟨found, found', hfound, hfound', ?_⟩
    constructor
    · rw [hjudged, hjudged']
      exact judge_others_eq context s registry registry'
    · rw [duplicatesIn_eq, hjudged]
      exact length_duplicates_judge context s registry
    · rw [duplicatesIn_eq, hjudged']
      exact length_duplicates_judge context s registry'
    · exact hdocument.trans hdocument'.symm
    · exact hcontent.trans hcontent'.symm
  · intro small added big state h
    exact extends_of_addedAfter h context workers workers' state

/-- A document whose kind is unknown. -/
def strangeSource : Source where
  path := "docs/notes/n.md"
  kind := "note"
  block := .text "id: x"

/-- A tenet is checked alike after another one with its id and beside a document of unknown kind,
and the first of two tenets leaves the same without the second. -/
theorem runBatch_touches_only_owners_sharedId :
    (let run := runBatch ⟨"1.0.0", []⟩ 1 {} sharedId
      let other := runBatch ⟨"1.0.0", []⟩ 1 ⟨⟨[("y", "other.md")]⟩, {}⟩
        [tenetSource "docs/tenets/b.md" "id: x", strangeSource]
      ∃ found found', run.1.collector = Collector.extend {} found
        ∧ other.1.collector = Collector.extend {} found'
        ∧ AgreesOn "docs/tenets/b.md" found found' run.2 other.2)
    ∧ Extends [tenetSource "docs/tenets/b.md" "id: x"]
        (runBatch ⟨"1.0.0", []⟩ 1 {} [tenetSource "docs/tenets/a.md" "id: x"])
        (runBatch ⟨"1.0.0", []⟩ 1 {} sharedId.reverse) := by
  constructor
  · apply (runBatch_touches_only_owners ⟨"1.0.0", []⟩ 1 1).1
      (tenetSource "docs/tenets/b.md" "id: x")
    · exact ⟨[tenetSource "docs/tenets/a.md" "id: x"], [], rfl, by decide⟩
    · exact ⟨[], [strangeSource], rfl, by decide⟩
  · apply (runBatch_touches_only_owners ⟨"1.0.0", []⟩ 1 1).2
    constructor
    · exact List.reverse_perm sharedId
    · exact List.sublist_cons_self _ _
    · decide

end FrontMatter
