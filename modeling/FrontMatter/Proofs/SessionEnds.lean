import FrontMatter.Proofs.Excerpts
import FrontMatter.Proofs.Results
import FrontMatter.Proofs.OneByOne
import FrontMatter.Proofs.Verdicts

/-!
# `FrontMatter.Proofs.SessionEnds` — the documents that keep a session from its verdict

A file whose block cannot be read, or whose check stops, is told in a finding of its own, and the
session goes on. But an entry with the name of a document may be a directory. The first one in the
order of paths stops the session, and nothing is printed about any document. The entries are those
below a docs root without an anchor; one with an anchor has none.

## Contents

* `Tree.HasFile`, `readSources_of_first`: the documents that cannot be read.
* `Gives`, `Gives.exists_eq_map`: what sessions give.
* `runWith_of_fault`, `Gives.eq_error_of_first`: the sessions that are stopped.
* `PrintsFinding`, `printsFinding_printed`: findings in what is printed.
* `ReportsAll`, `EndsAsFound`, `gives_endsAsFound`: the sessions that come to a verdict.
* `runSession_directoryTree`: a session that is stopped.
-/

namespace FrontMatter

open Text (Path)

/-! ## Documents that can be read -/

/-- A path that leads to a file. -/
def Tree.HasFile (tree : Tree) (p : Path) : Prop :=
  ∃ bytes, tree.fileAt? p = some bytes

/-- Every document that a session finds is a file. -/
def Settings.FindsFiles (s : Settings) (tree : Tree) : Prop :=
  ∀ f ∈ s.found tree, tree.HasFile f.path

/-- A document that is a file is read. -/
theorem exists_readSource {tree : Tree} {f : Found} (h : tree.HasFile f.path) :
    ∃ source, readSource tree f = .ok source := by
  obtain ⟨bytes, hbytes⟩ := h
  unfold readSource
  rw [hbytes]
  exact ⟨_, rfl⟩

/-- One that is none cannot be read. -/
theorem readSource_eq_error {tree : Tree} {f : Found} (h : ¬ tree.HasFile f.path) :
    readSource tree f = .error (.isDirectory f.path.toString) := by
  have hnone : tree.fileAt? f.path = none :=
    Option.eq_none_iff_forall_ne_some.mpr fun bytes hbytes => h ⟨bytes, hbytes⟩
  unfold readSource
  rw [hnone]

/-- The first document that is no file stops the reading. -/
theorem readSources_of_first {tree : Tree} {before after : List Found} {f : Found}
    (hbefore : ∀ g ∈ before, tree.HasFile g.path) (hf : ¬ tree.HasFile f.path) :
    readSources tree (before ++ f :: after) = .error (.isDirectory f.path.toString) := by
  refine mapM_eq_error_iff.mpr ⟨before, f, after, rfl, ?_, readSource_eq_error hf⟩
  intro g hg
  exact exists_readSource (hbefore g hg)

/-- Where not all documents are files, there is a first one that is none. -/
theorem exists_first_of_not_all {tree : Tree} {found : List Found}
    (h : ¬ ∀ f ∈ found, tree.HasFile f.path) : ∃ before f after, found = before ++ f :: after
      ∧ (∀ g ∈ before, tree.HasFile g.path) ∧ ¬ tree.HasFile f.path := by
  induction found with
  | nil => exact absurd (by simp) h
  | cons f rest ih =>
    by_cases hf : tree.HasFile f.path
    · have hrest : ¬ ∀ g ∈ rest, tree.HasFile g.path := fun hall =>
        h (List.forall_mem_cons.mpr ⟨hf, hall⟩)
      obtain ⟨before, g, after, rfl, hbefore, hg⟩ := ih hrest
      exact ⟨f :: before, g, after, rfl, List.forall_mem_cons.mpr ⟨hf, hbefore⟩, hg⟩
    · exact ⟨[], f, rest, rfl, by simp, hf⟩

/-! ## What sessions give -/

/-- What a session over a tree gives, with a level that there is. The settings are given or loaded;
loaded ones decide which records of the log are kept. -/
inductive Gives (tree : Tree) (terminal : Bool) (s : Settings)
    (result : Except SessionFault Verdict) : Prop
  | given (hlevel : (threshold? (Text.upper s.logLevel)).isSome)
      (hrun : runWith tree terminal s = result)
  | loaded {environment : Entries String} (hload : Settings.load tree environment = .ok s)
      (hlevel : (threshold? (Text.upper s.logLevel)).isSome)
      (hrun : runSession tree environment terminal = result)

/-- A session gives what its run gives, the log apart. -/
theorem Gives.exists_eq_map {tree : Tree} {terminal : Bool} {s : Settings}
    {result : Except SessionFault Verdict} (h : Gives tree terminal s result) :
    ∃ kept : Log → Log,
      result = (runWith tree terminal s).map fun v => { v with log := kept v.log } := by
  cases h with
  | given hlevel hrun =>
    refine ⟨id, ?_⟩
    rw [← hrun]
    cases runWith tree terminal s <;> rfl
  | loaded hload hlevel hrun =>
    obtain ⟨least, hleast⟩ := Option.isSome_iff_exists.mp hlevel
    refine ⟨fun log => log.above least, ?_⟩
    rw [← hrun]
    unfold runSession
    rw [hload]
    dsimp only
    rw [hleast]

/-- A session that gives a verdict ends with it. -/
theorem Gives.endsWith {tree : Tree} {terminal : Bool} {s : Settings} {v : Verdict}
    (h : Gives tree terminal s (.ok v)) : EndsWith tree terminal s v := by
  cases h with
  | given hlevel hrun => exact .given hrun
  | loaded hload hlevel hrun => exact .loaded hload hrun

/-- Where the documents cannot be read, a run stops. -/
theorem runWith_of_fault {tree : Tree} {s : Settings} {version : String}
    (hversion : expectedVersion tree (Path.ofString s.versionFile) = .ok version) {f : ReadFault}
    (hread : readSources tree (s.found tree) = .error f) (terminal : Bool) :
    runWith tree terminal s = .error (.source f) := by
  unfold Settings.found at hread
  unfold runWith checkDocs
  rw [hversion]
  dsimp only
  rw [hread]
  rfl

/-! ## Findings in what is printed -/

/-- What is printed covers a finding: people are shown its paragraph, and programs are given the
report of some findings with it. -/
structure PrintsFinding (s : Settings) (colours : Bool) (contents : Entries String)
    (output : String) (d : Diagnostic) : Prop where
  text : s.outputFormat ≠ "json" → ∃ before after, output = shownIn colours
    (String.intercalate "\n" (before
      ++ paragraph ⟨colours, s.contextLines⟩ (SourceLines.ofTexts contents) d ++ after)) ++ "\n"
  json : s.outputFormat = "json" → ∃ ds text, d ∈ ds ∧ jsonReport ds = .ok text
    ∧ output = text ++ "\n"

/-- What is printed about some findings covers each of them. -/
theorem printsFinding_printed {s : Settings} {colours : Bool} {count : Nat} {ds : List Diagnostic}
    {contents : Entries String} {text : String}
    (h : printed s colours count ds contents = .ok text) {d : Diagnostic} (hd : d ∈ ds) :
    PrintsFinding s colours contents (text ++ "\n") d := by
  constructor
  · intro hformat
    obtain ⟨before, after, hreport⟩ := exists_report_eq ⟨colours, s.contextLines⟩
      (SourceLines.ofTexts contents) hd
    have hsome : ¬ ds.isEmpty = true := fun hempty => by
      rw [List.isEmpty_iff.mp hempty] at hd
      cases hd
    refine ⟨before, after, ?_⟩
    rw [eq_of_printed hformat h, if_neg hsome, hreport]
  · intro hformat
    unfold printed at h
    rw [if_pos (beq_iff_eq.mpr hformat)] at h
    exact ⟨ds, text, hd, h, rfl⟩

/-! ## The sessions that come to a verdict -/

/-- A verdict about all documents: each of them has been read and validated in its turn, and what is
printed covers everything that has been found in it, so that the session passes exactly when nothing
has been found in any. -/
structure ReportsAll (tree : Tree) (terminal : Bool) (s : Settings) (version : String)
    (v : Verdict) : Prop where
  exit : v.exit = 0 ∨ v.exit = 1
  visited : ∃ sources visits run, RunsOneByOne (s.context tree version) {} sources visits run
    ∧ (∀ f ∈ s.found tree, ∃ seen ∈ visits, readSource tree f = .ok seen.source)
    ∧ (v.exit = 0 ↔ ∀ seen ∈ visits, seen.findings = [])
    ∧ ∀ seen ∈ visits, ∀ d ∈ seen.findings,
      PrintsFinding s (terminal && !s.noColour) run.2.contents v.output d

/-- How a session ends whose version file holds a text. If the text is blank, there is no version,
and nothing is checked. Otherwise the session comes to a verdict exactly if every document that is
found is a file. The verdict is about all documents then; else the first document that is no file
stops the session. -/
structure EndsAsFound (tree : Tree) (terminal : Bool) (s : Settings) (version : String)
    (result : Except SessionFault Verdict) : Prop where
  blank : version = "" → ∃ v, result = .ok v ∧ v.exit = 1 ∧ v.output = ""
  verdict : version ≠ "" → ((∃ v, result = .ok v) ↔ s.FindsFiles tree)
  reports : version ≠ "" → ∀ v, result = .ok v → ReportsAll tree terminal s version v
  stops : version ≠ "" → ∀ before f after, s.found tree = before ++ f :: after →
    (∀ g ∈ before, tree.HasFile g.path) → ¬ tree.HasFile f.path →
    result = .error (.source (.isDirectory f.path.toString))

/-- A check of the documents reports all that is found in them. -/
theorem reportsAll_of_checked {tree : Tree} {terminal : Bool} {s : Settings} {version : String}
    {v : Verdict} {run : RunState × Batch} (hrun : IsChecked tree s version run)
    (hexit : v.exit = if run.1.collector.any then 1 else 0)
    (houtput : PrintsRun terminal s (s.found tree).length run v.output) :
    ReportsAll tree terminal s version v := by
  obtain ⟨-, sources, hread, rfl⟩ := hrun
  obtain ⟨text, htext, houtput⟩ := houtput
  have hone := runsOneByOne_runBatch (s.context tree version) s.maxWorkers {} sources
  let visits := visitAll (s.context tree version) {} (sortSources sources)
  let run := runBatch (s.context tree version) s.maxWorkers {} sources
  have hfound : run.1.collector.diagnostics = visits.flatMap Visit.findings := by
    rw [hone.findings]
    rfl
  refine ⟨?_, sources, visits, run, hone, ?_, ?_, ?_⟩
  · rw [hexit]
    split
    · exact .inr rfl
    · exact .inl rfl
  · intro f hf
    obtain ⟨source, hmem, hsource⟩ := exists_source_of_mem hread hf
    rw [← hone.order.perm.mem_iff] at hmem
    obtain ⟨seen, hseen, rfl⟩ := List.mem_map.mp hmem
    exact ⟨seen, hseen, hsource⟩
  · rw [← List.flatMap_eq_nil_iff, ← hfound, hexit]
    unfold Collector.any Collector.count
    cases run.1.collector.diagnostics <;> simp
  · intro seen hseen d hd
    have hmem : d ∈ run.1.collector.diagnostics := by
      rw [hfound]
      exact List.mem_flatMap.mpr ⟨seen, hseen, hd⟩
    rw [houtput]
    exact printsFinding_printed htext hmem

/-- The version that a file with a text holds: the text without the blanks around it, unless it is
blank. -/
theorem expectedVersion_of_decode {tree : Tree} {p : Path} {bytes : List UInt8} {text : String}
    (hfile : tree.fileAt? p = some bytes) (htext : Text.decode bytes = .ok text) :
    expectedVersion tree p = if Text.strip (Text.unifyBreaks text) = "" then .error (.empty p)
      else .ok (Text.strip (Text.unifyBreaks text)) := by
  unfold expectedVersion
  rw [hfile]
  dsimp only
  rw [htext]
  simp only [beq_iff_eq]

/-- A session with a version is stopped by the first document that is no file. -/
theorem Gives.eq_error_of_first {tree : Tree} {terminal : Bool} {s : Settings}
    {result : Except SessionFault Verdict} (h : Gives tree terminal s result) {version : String}
    (hversion : expectedVersion tree (Path.ofString s.versionFile) = .ok version)
    {before after : List Found} {f : Found} (hfound : s.found tree = before ++ f :: after)
    (hbefore : ∀ g ∈ before, tree.HasFile g.path) (hf : ¬ tree.HasFile f.path) :
    result = .error (.source (.isDirectory f.path.toString)) := by
  have hread : readSources tree (s.found tree) = .error (.isDirectory f.path.toString) := by
    rw [hfound]
    exact readSources_of_first hbefore hf
  obtain ⟨kept, hresult⟩ := h.exists_eq_map
  rw [hresult, runWith_of_fault hversion hread]
  rfl

/-- Every session with a text in its version file comes to a verdict about all documents exactly if
each of them is a file; it is stopped by the first one that is none. -/
theorem gives_endsAsFound {tree : Tree} {terminal : Bool} {s : Settings}
    {result : Except SessionFault Verdict} (h : Gives tree terminal s result)
    {bytes : List UInt8} (hfile : tree.fileAt? (Path.ofString s.versionFile) = some bytes)
    {text : String} (htext : Text.decode bytes = .ok text) :
    EndsAsFound tree terminal s (Text.strip (Text.unifyBreaks text)) result := by
  have hversion := expectedVersion_of_decode hfile htext
  obtain ⟨kept, hresult⟩ := h.exists_eq_map
  refine ⟨?_, ?_, ?_, ?_⟩
  · intro hblank
    rw [if_pos hblank] at hversion
    rw [hresult]
    unfold runWith
    rw [hversion]
    exact ⟨_, rfl, rfl, rfl⟩
  · intro hsome
    rw [if_neg hsome] at hversion
    constructor
    · rintro ⟨v, hv⟩
      by_contra hno
      obtain ⟨before, f, after, hfound, hbefore, hf⟩ := exists_first_of_not_all hno
      rw [h.eq_error_of_first hversion hfound hbefore hf] at hv
      cases hv
    · intro hfiles
      obtain ⟨sources, hread⟩ := exists_readSources fun f hf => exists_readSource (hfiles f hf)
      obtain ⟨v, hv⟩ := exists_verdict_of_readSources hversion hread terminal
      rw [hresult, hv]
      exact ⟨_, rfl⟩
  · rintro hsome v rfl
    rw [if_neg hsome] at hversion
    cases h.endsWith.outcome with
    | noVersion herror => rw [hversion] at herror; cases herror
    | @checked version run hrun hexit houtput =>
      obtain rfl := Except.ok.inj (hrun.expected.symm.trans hversion)
      exact reportsAll_of_checked hrun hexit houtput
  · intro hsome before f after hfound hbefore hf
    rw [if_neg hsome] at hversion
    exact h.eq_error_of_first hversion hfound hbefore hf

/-- The sample comes to a verdict. -/
theorem endsAsFound_sampleFiles :
    let tree := Tree.ofFiles sampleFiles
    (threshold? (Text.upper ({} : Settings).logLevel)).isSome
      ∧ tree.fileAt? (Path.ofString "VERSION") = some "1.0.0\n".toUTF8.toList
      ∧ Text.decode "1.0.0\n".toUTF8.toList = .ok "1.0.0\n"
      ∧ EndsAsFound tree false {} (Text.strip (Text.unifyBreaks "1.0.0\n"))
        (runWith tree false {}) := by
  intro tree
  have hlevel : (threshold? (Text.upper ({} : Settings).logLevel)).isSome := by decide +kernel
  have hfile : tree.fileAt? (Path.ofString "VERSION") = some "1.0.0\n".toUTF8.toList := by
    decide +kernel
  have htext : Text.decode "1.0.0\n".toUTF8.toList = .ok "1.0.0\n" := by decide +kernel
  exact ⟨hlevel, hfile, htext, gives_endsAsFound (.given hlevel rfl) hfile htext⟩

/-- A version, a tenet without a block, and a directory with the name of a document. -/
def directoryTree : Tree :=
  Tree.ofFiles [textFile "VERSION" "1.0.0\n", textFile "docs/tenets/a.md" "# A\n",
    (Path.ofString "docs/tenets/dir.md", none)]

/-- The documents of the tree are the tenet and then the directory. -/
theorem found_directoryTree : ({} : Settings).found directoryTree
    = [⟨Path.ofString "docs/tenets/a.md", .tenet⟩] ++ ⟨Path.ofString "docs/tenets/dir.md", .tenet⟩
      :: [] := by
  have hpaths : (documentPaths directoryTree (Path.ofString "docs")).map
      (Found.below (Path.ofString "docs"))
      = [⟨Path.ofString "docs/tenets/a.md", .tenet⟩,
        ⟨Path.ofString "docs/tenets/dir.md", .tenet⟩] := by
    decide +kernel
  unfold Settings.found discover
  rw [hpaths]
  apply List.mergeSort_of_pairwise
  decide +kernel

/-- The directory stops the session, so that nothing is told about the tenet. -/
theorem runSession_directoryTree :
    expectedVersion directoryTree (Path.ofString "VERSION") = .ok "1.0.0"
      ∧ directoryTree.fileAt? (Path.ofString "docs/tenets/a.md") = some "# A\n".toUTF8.toList
      ∧ runSession directoryTree [] false
        = .error (.source (.isDirectory "docs/tenets/dir.md")) := by
  have hversion : expectedVersion directoryTree (Path.ofString "VERSION") = .ok "1.0.0" := by
    decide +kernel
  have hfile : directoryTree.fileAt? (Path.ofString "docs/tenets/a.md")
      = some "# A\n".toUTF8.toList := by
    decide +kernel
  have hnone : directoryTree.fileAt? (Path.ofString "docs/tenets/dir.md") = none := by
    decide +kernel
  have hbefore : ∀ g ∈ [(⟨Path.ofString "docs/tenets/a.md", .tenet⟩ : Found)],
      directoryTree.HasFile g.path := by
    simpa using ⟨_, hfile⟩
  have hno : ¬ directoryTree.HasFile (Path.ofString "docs/tenets/dir.md") := by
    rintro ⟨bytes, hbytes⟩
    rw [hnone] at hbytes
    cases hbytes
  have hload : Settings.load directoryTree [] = .ok {} := by decide +kernel
  have hlevel : (threshold? (Text.upper ({} : Settings).logLevel)).isSome := by decide +kernel
  have hgives : Gives directoryTree false {} (runSession directoryTree [] false) :=
    .loaded hload hlevel rfl
  exact ⟨hversion, hfile, hgives.eq_error_of_first hversion found_directoryTree hbefore hno⟩

end FrontMatter
