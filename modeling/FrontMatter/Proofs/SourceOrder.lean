import FrontMatter.Proofs.IdOwners

/-!
# `FrontMatter.Proofs.SourceOrder` — the order in which documents are handed in does not matter

A batch sorts its documents by their paths first. Documents with distinct paths have one sorted
order only, so whatever a batch leaves depends on which documents it has and not on their order.

## Contents

* `sortSources_eq_of_perm`: documents with distinct paths are sorted in one way.
* `sortedByFile_judgeAll`: the findings about sorted documents are sorted by file.
* `runBatch_eq_of_perm`: two batches of the same documents leave the same.
-/

namespace FrontMatter

/-! ## One sorted order -/

/-- Documents with distinct paths come to one order by sorting, from whatever order they had. -/
theorem sortSources_eq_of_perm {sources others : List Source} (hperm : sources.Perm others)
    (hpaths : (sources.map Source.path).Nodup) : sortSources sources = sortSources others := by
  have hsame : (sortSources sources).Perm (sortSources others) :=
    (sortSources_perm sources).trans (hperm.trans (sortSources_perm others).symm)
  apply hsame.eq_of_pairwise
  · -- Two documents that each come before the other have one path, so they are one document.
    intro s t hs ht hle hge
    have hs : s ∈ sources := (sortSources_perm sources).mem_iff.mp hs
    have ht : t ∈ sources := hperm.mem_iff.mpr ((sortSources_perm others).mem_iff.mp ht)
    exact List.inj_on_of_nodup_map hpaths hs ht (String.le_antisymm hle hge)
  · exact sortedByPath_sortSources sources
  · exact sortedByPath_sortSources others

/-! ## Sorted findings -/

/-- Findings by file, in order. -/
abbrev SortedByFile (ds : List Diagnostic) : Prop :=
  ds.Pairwise fun d e => d.file ≤ e.file

/-- Findings about one document are in one file. -/
theorem sortedByFile_judge (context : Context) (registry : Registry) (s : Source) :
    SortedByFile (judge context registry s).1 := by
  rw [SortedByFile, List.pairwise_iff_forall_sublist]
  intro d e hsub
  have hd : d ∈ (judge context registry s).1 := hsub.subset (by simp)
  have he : e ∈ (judge context registry s).1 := hsub.subset (by simp)
  rw [file_of_mem_judge hd, file_of_mem_judge he]

/-- Findings about documents in the order of their paths are in the order of their files. -/
theorem sortedByFile_judgeAll {context : Context} {registry : Registry} {sources : List Source}
    (h : SortedByPath sources) : SortedByFile (judgeAll context registry sources).1 := by
  induction sources generalizing registry with
  | nil => exact List.Pairwise.nil
  | cons s rest ih =>
    obtain ⟨hleast, hrest⟩ := List.pairwise_cons.mp h
    rw [judgeAll_cons]
    refine List.pairwise_append.mpr ⟨sortedByFile_judge context registry s, ih hrest, ?_⟩
    intro d hd e he
    obtain ⟨t, ht, before, hjudged⟩ := exists_of_mem_judgeAll he
    rw [file_of_mem_judge hd, file_of_mem_judge hjudged]
    exact hleast t ht

/-! ## Batches -/

/-- Of documents with distinct paths, every order leaves the same findings in the same order, the
same owners, and the same documents and contents in the same order, from whatever findings and
owners there were, and with any numbers of workers. What is found comes after the findings that
there were; it is in the files of the batch, and in the order of the files. -/
theorem runBatch_eq_of_perm {sources others : List Source} (hperm : sources.Perm others)
    (hpaths : (sources.map Source.path).Nodup) (context : Context) (workers workers' : Int)
    (state : RunState) :
    let run := runBatch context workers state sources
    let other := runBatch context workers' state others
    other.1.collector = run.1.collector ∧ other.1.registry = run.1.registry
      ∧ other.2.documents = run.2.documents ∧ other.2.contents = run.2.contents
      ∧ ∃ found, run.1.collector = state.collector.extend found
        ∧ (∀ d ∈ found, d.file ∈ sources.map Source.path) ∧ SortedByFile found := by
  intro run other
  have hsort := sortSources_eq_of_perm hperm hpaths
  have hstate : run.1 = _ := (runBatch_eq context workers state sources).1
  have hsame : other.1 = run.1 := by
    rw [hstate, hsort]
    exact (runBatch_eq context workers' state others).1
  have hdocuments : other.2.documents = run.2.documents := by
    rw [documents_runBatch, documents_runBatch, hsort]
  have hcontents : other.2.contents = run.2.contents := by
    rw [contents_runBatch, contents_runBatch, hsort]
  refine ⟨congrArg _ hsame, congrArg _ hsame, hdocuments, hcontents, _, congrArg _ hstate, ?_, ?_⟩
  · intro d hd
    obtain ⟨s, hs, before, hjudged⟩ := exists_of_mem_judgeAll hd
    rw [file_of_mem_judge hjudged]
    exact List.mem_map_of_mem ((sortSources_perm sources).mem_iff.mp hs)
  · exact sortedByFile_judgeAll (sortedByPath_sortSources sources)

/-- Two tenets that declare one id leave the same when they are handed in the other way round. -/
theorem runBatch_eq_of_reverse_sharedId :
    let run := runBatch ⟨"1.0.0", []⟩ 1 {} sharedId
    let other := runBatch ⟨"1.0.0", []⟩ 4 {} sharedId.reverse
    other.1.collector = run.1.collector ∧ other.1.registry = run.1.registry
      ∧ other.2.documents = run.2.documents ∧ other.2.contents = run.2.contents
      ∧ ∃ found, run.1.collector = Collector.extend {} found
        ∧ (∀ d ∈ found, d.file ∈ sharedId.map Source.path) ∧ SortedByFile found :=
  runBatch_eq_of_perm (List.reverse_perm sharedId).symm (by decide) ⟨"1.0.0", []⟩ 1 4 {}

end FrontMatter
