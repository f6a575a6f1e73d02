import FrontMatter.Proofs.CleanRuns
import FrontMatter.Proofs.EscapeSequences
import FrontMatter.Proofs.FoundDocuments
import FrontMatter.Proofs.JsonReports
import FrontMatter.Proofs.ReportTexts
import FrontMatter.Proofs.ShownLines
import FrontMatter.Session

/-!
# `FrontMatter.Proofs.Verdicts` — the verdict of a session is exact

A session passes exactly when there is a version, every document that is found follows the rules,
and no two documents declare the same id. What is printed says the same as the exit code, in each of
the ways of printing. A session is one over the tree of a directory: a docs root with an anchor has
no documents, and a version file with one is not there.

## Contents

* `Found.Passes`, `Found.declaredId?`: documents that follow the rules, and their ids.
* `EndsWith`, `EndsWith.outcome`: the ways in which sessions end.
* `isOk_printed_runBatch`, `exists_endsWith`: the sessions that end with a verdict.
* `any_eq_false_iff`: the checks of documents that find nothing.
* `prefix_unstyledFrom`: dropping escape sequences keeps what comes before them.
* `eq_of_printed`, `report_ne_success`: what is printed for people tells success from failure.
* `EndsWith.exit_eq_zero_iff`: the sessions that pass.
* `VerdictExact`, `endsWith_verdictExact`: the verdict.
-/

namespace FrontMatter

open Text (Path Style escapeMark rendition styled unstyled unstyledFrom)

/-! ## Documents that are found -/

/-- A document of a tree that follows the rules. -/
def Found.Passes (tree : Tree) (context : Context) (f : Found) : Prop :=
  ∃ s, readSource tree f = .ok s ∧ s.Passes context

/-- The id that a document of a tree declares. -/
def Found.declaredId? (tree : Tree) (f : Found) : Option String :=
  match readSource tree f with
  | .ok s => s.declaredId?
  | .error _ => none

/-- The ids of the sources are those of the documents. -/
theorem filterMap_declaredId? {tree : Tree} {found : List Found} {sources : List Source}
    (h : readSources tree found = .ok sources) :
    sources.filterMap Source.declaredId? = found.filterMap (Found.declaredId? tree) := by
  let idOf : Except ReadFault Source → Option String
    | .ok s => s.declaredId?
    | .error _ => none
  have hids := congrArg (List.filterMap idOf) (map_readSource h).1
  rw [List.filterMap_map, List.filterMap_map] at hids
  exact hids.symm

/-- Every source passes exactly when every document does. -/
theorem forall_passes_iff {tree : Tree} {found : List Found} {sources : List Source}
    (h : readSources tree found = .ok sources) (context : Context) :
    (∀ s ∈ sources, s.Passes context) ↔ ∀ f ∈ found, f.Passes tree context := by
  constructor
  · intro hall f hf
    obtain ⟨s, hs, hread⟩ := exists_source_of_mem h hf
    exact ⟨s, hread, hall s hs⟩
  · intro hall s hs
    obtain ⟨f, hf, hread⟩ := (mem_readSources_iff h).mp hs
    obtain ⟨t, ht, hpasses⟩ := hall f hf
    obtain rfl : s = t := Except.ok.inj (hread.symm.trans ht)
    exact hpasses

/-- Reading documents that are found and checking them finds nothing exactly when they all pass and
no two of them declare the same id. -/
theorem any_eq_false_iff {tree : Tree} (htree : tree.WellNamed) {root : Path}
    {sources : List Source} (hread : readSources tree (discover tree root) = .ok sources)
    (context : Context) (workers : Int) :
    (runBatch context workers {} sources).1.collector.any = false
      ↔ (∀ f ∈ discover tree root, f.Passes tree context)
        ∧ ((discover tree root).filterMap (Found.declaredId? tree)).Nodup := by
  have hperm := sortSources_perm sources
  have hpaths : (sources.map Source.path).Nodup := by
    rw [(map_readSource hread).2]
    exact nodup_discover htree root
  have hsorted : ((sortSources sources).map Source.path).Nodup :=
    (hperm.map Source.path).nodup_iff.mpr hpaths
  obtain ⟨hstate, -⟩ := runBatch_eq context workers {} sources
  rw [hstate, ← forall_passes_iff hread context, ← filterMap_declaredId? hread,
    ← (hperm.filterMap Source.declaredId?).nodup_iff]
  simp only [← hperm.mem_iff]
  rw [← judgeAll_eq_nil_iff (sortedByPath_sortSources sources) hsorted]
  unfold Collector.any Collector.count Collector.extend
  rw [List.nil_append, decide_eq_false_iff_not, Nat.not_lt, Nat.le_zero,
    List.length_eq_zero_iff]

/-! ## How sessions end -/

/-- A session over a tree that ends with a verdict, with settings that are given or loaded. -/
inductive EndsWith (tree : Tree) (terminal : Bool) (s : Settings) (v : Verdict) : Prop
  | given (hrun : runWith tree terminal s = .ok v)
  | loaded {environment : Entries String} (hload : Settings.load tree environment = .ok s)
      (hrun : runSession tree environment terminal = .ok v)

/-- The documents of a session. -/
def Settings.found (s : Settings) (tree : Tree) : List Found :=
  discover tree (Path.ofString s.docsRoot)

/-- What the documents of a session are checked against. -/
def Settings.context (s : Settings) (tree : Tree) (version : String) : Context :=
  ⟨version, tenetIds (s.found tree)⟩

/-- The check of the documents of a session: what a run over all of them finds and keeps. -/
structure IsChecked (tree : Tree) (s : Settings) (version : String) (run : RunState × Batch) :
    Prop where
  expected : expectedVersion tree (Path.ofString s.versionFile) = .ok version
  ran : ∃ sources, readSources tree (s.found tree) = .ok sources
    ∧ run = runBatch (s.context tree version) s.maxWorkers {} sources

/-- An output that tells what a run has found, with a line feed at its end. -/
def PrintsRun (terminal : Bool) (s : Settings) (count : Nat) (run : RunState × Batch)
    (output : String) : Prop :=
  ∃ text, printed s (terminal && !s.noColour) count run.1.collector.diagnostics run.2.contents
    = .ok text ∧ output = text ++ "\n"

/-- The ways in which a session ends: without a version, or after a check of the documents. -/
inductive Outcome (tree : Tree) (terminal : Bool) (s : Settings) (v : Verdict) : Prop
  | noVersion {f : VersionFault}
      (hversion : expectedVersion tree (Path.ofString s.versionFile) = .error f)
      (hexit : v.exit = 1) (houtput : v.output = "")
  | checked {version : String} {run : RunState × Batch} (hrun : IsChecked tree s version run)
      (hexit : v.exit = if run.1.collector.any then 1 else 0)
      (houtput : PrintsRun terminal s (s.found tree).length run v.output)

/-- A session with given settings ends in one of the two ways. -/
theorem outcome_of_runWith {tree : Tree} {terminal : Bool} {s : Settings} {v : Verdict}
    (h : runWith tree terminal s = .ok v) : Outcome tree terminal s v := by
  unfold runWith at h
  split at h
  · cases h
  · next f _ hversion =>
    cases h
    exact .noVersion hversion rfl rfl
  · next version hversion =>
    dsimp only at h
    unfold checkDocs at h
    cases hread : readSources tree (s.found tree) with
    | error f =>
      unfold Settings.found at hread
      rw [hread] at h
      cases h
    | ok sources =>
      have hrun : IsChecked tree s version _ := ⟨hversion, sources, hread, rfl⟩
      unfold Settings.found at hread
      rw [hread] at h
      dsimp only [bind, Except.bind, pure, Except.pure] at h
      split at h
      · cases h
      · next text htext =>
        cases h
        exact .checked hrun rfl ⟨text, htext, rfl⟩

/-- A session ends in one of the two ways; the log changes neither the exit code nor what is
printed. -/
theorem EndsWith.outcome {tree : Tree} {terminal : Bool} {s : Settings} {v : Verdict}
    (h : EndsWith tree terminal s v) : Outcome tree terminal s v := by
  cases h with
  | given hrun => exact outcome_of_runWith hrun
  | @loaded environment hload hrun =>
    unfold runSession at hrun
    rw [hload] at hrun
    dsimp only at hrun
    split at hrun
    · cases hrun
    · cases hw : runWith tree terminal s with
      | error f =>
        rw [hw] at hrun
        cases hrun
      | ok w =>
        rw [hw] at hrun
        cases hrun
        cases outcome_of_runWith hw with
        | noVersion hversion hexit houtput => exact .noVersion hversion hexit houtput
        | checked hrun hexit houtput => exact .checked hrun hexit houtput

/-- A check of the documents of a session gives one result. -/
theorem IsChecked.unique {tree : Tree} {s : Settings} {version other : String}
    {run run' : RunState × Batch} (h : IsChecked tree s version run)
    (h' : IsChecked tree s other run') : run = run' := by
  obtain ⟨hversion, sources, hread, rfl⟩ := h
  obtain ⟨hversion', sources', hread', rfl⟩ := h'
  obtain rfl : version = other := Except.ok.inj (hversion.symm.trans hversion')
  obtain rfl : sources = sources' := Except.ok.inj (hread.symm.trans hread')
  rfl

/-- Findings whose lines can be written are printed. -/
theorem isOk_printed (s : Settings) (colours : Bool) (count : Nat) {ds : List Diagnostic}
    (h : ∀ d ∈ ds, d.HasShortLine) (contents : Entries String) :
    IsOk (printed s colours count ds contents) := by
  unfold printed
  split
  · exact (isOk_jsonReport_iff ds).mpr h
  · have htext : IsOk (if ds.isEmpty then .ok (styled ⟨some .green, false⟩ (successLine count))
        else reportText ⟨colours, s.contextLines⟩ (SourceLines.ofTexts contents) ds) := by
      split
      · exact isOk_ok _
      · exact (isOk_reportText_iff _ _ ds).mpr h
    obtain ⟨text, htext⟩ := htext
    dsimp only
    rw [htext]
    split <;> exact isOk_ok _

/-- What is found in documents that are read is printed. -/
theorem isOk_printed_runBatch {tree : Tree} {found : List Found} {sources : List Source}
    (hread : readSources tree found = .ok sources) (context : Context) (s : Settings)
    (colours : Bool) (count : Nat) :
    let run := runBatch context s.maxWorkers {} sources
    IsOk (printed s colours count run.1.collector.diagnostics run.2.contents) := by
  intro run
  refine isOk_printed s colours count (hasShortLine_of_runBatch ?_ context s.maxWorkers ?_) _
  · intro source hsource
    obtain ⟨f, -, hf⟩ := (mem_readSources_iff hread).mp hsource
    exact (of_readSource hf).2.2
  · intro d hd
    cases hd

/-- Where the documents are read, a run comes to a verdict. -/
theorem exists_verdict_of_readSources {tree : Tree} {s : Settings} {version : String}
    (hversion : expectedVersion tree (Path.ofString s.versionFile) = .ok version)
    {sources : List Source} (hread : readSources tree (s.found tree) = .ok sources)
    (terminal : Bool) : ∃ v, runWith tree terminal s = .ok v := by
  obtain ⟨text, htext⟩ := isOk_printed_runBatch hread (s.context tree version) s
    (terminal && !s.noColour) (s.found tree).length
  unfold Settings.context Settings.found at htext
  unfold Settings.found at hread
  unfold runWith checkDocs
  rw [hversion]
  dsimp only
  rw [hread]
  dsimp only [bind, Except.bind, pure, Except.pure]
  rw [htext]
  exact ⟨_, rfl⟩

/-- A session with a version and with documents that can be read is checked, and ends with a
verdict. -/
theorem exists_endsWith {tree : Tree} {s : Settings} {version : String}
    (hversion : expectedVersion tree (Path.ofString s.versionFile) = .ok version)
    (hread : ∀ f ∈ s.found tree, ∃ source, readSource tree f = .ok source) (terminal : Bool) :
    ∃ run v, IsChecked tree s version run ∧ EndsWith tree terminal s v := by
  obtain ⟨sources, hsources⟩ := exists_readSources hread
  obtain ⟨v, hv⟩ := exists_verdict_of_readSources hversion hsources terminal
  exact ⟨_, v, ⟨hversion, sources, hsources, rfl⟩, .given hv⟩

/-! ## Texts without styles -/

/-- What has been kept stays at the front. -/
theorem prefix_unstyledFrom (done cs : List Char) : done.reverse <+: unstyledFrom done cs := by
  -- By induction on the number of characters: a sequence is dropped as a whole.
  induction hlength : cs.length using Nat.strong_induction_on generalizing done cs with
  | _ n ih =>
    cases cs with
    | nil =>
      rw [unstyledFrom]
    | cons c rest =>
      have hkept : done.reverse <+: unstyledFrom (c :: done) rest :=
        (List.reverse_cons ▸ List.prefix_append _ _).trans
          (ih rest.length (by simp [← hlength]) (c :: done) rest rfl)
      rw [unstyledFrom]
      split
      · split
        · next after hafter =>
          have hshorter := Text.length_of_afterSequence? hafter
          refine ih after.length ?_ done after rfl
          rw [← hlength, List.length_cons]
          omega
        · exact hkept
      · exact hkept

/-! ## What is printed -/

/-- A text as it is printed, with colours or without. -/
def shownIn (colours : Bool) (text : String) : String :=
  if colours then text else unstyled text

/-- The success line as it is printed. -/
def successText (colours : Bool) (count : Nat) : String :=
  if colours then styled ⟨some .green, false⟩ (successLine count) else successLine count

/-- The success line holds no escape character. -/
theorem not_mem_successLine (count : Nat) : escapeMark ∉ (successLine count).toList := by
  exact not_mem_append (not_mem_append (by decide) (not_mem_toString (.inr rfl) count)) (by decide)

/-- What is printed for people: the success line where nothing has been found, and the report of the
findings otherwise. -/
theorem eq_of_printed {s : Settings} (hformat : s.outputFormat ≠ "json") {colours : Bool}
    {count : Nat} {ds : List Diagnostic} {contents : Entries String} {text : String}
    (h : printed s colours count ds contents = .ok text) :
    text = if ds.isEmpty then successText colours count
      else shownIn colours
        (report ⟨colours, s.contextLines⟩ (SourceLines.ofTexts contents) ds) := by
  unfold printed at h
  rw [if_neg (by simpa using hformat)] at h
  dsimp only at h
  split
  · next hempty =>
    have hplain := unstyled_styled .green (not_mem_successLine count)
    rw [if_pos hempty] at h
    cases colours with
    | true => exact (Except.ok.inj h).symm
    | false => exact (Except.ok.inj h).symm.trans hplain
  · next hsome =>
    rw [if_neg hsome] at h
    unfold shownIn
    cases colours with
    | true =>
      rw [if_pos rfl] at h ⊢
      exact eq_report_of_reportText h
    | false =>
      rw [if_neg Bool.false_ne_true] at h ⊢
      obtain ⟨shown, hshown, rfl⟩ := exists_of_map_eq_ok h
      rw [eq_report_of_reportText hshown]

/-- A report begins with its heading. -/
theorem heading_prefix_report (l : ReportStyle) (sources : SourceLines) {ds : List Diagnostic}
    (h : ds ≠ []) :
    (l.apply ⟨some .red, true⟩ (heading ds)).toList <+: (report l sources ds).toList := by
  unfold report reportLines
  rw [if_neg (by simpa using h), List.singleton_append, String.toList_intercalate, List.map_cons]
  cases List.map String.toList (ds.flatMap fun d => "" :: paragraph l sources d) with
  | nil => simp
  | cons line lines =>
    rw [List.intercalate_cons_cons, List.append_assoc]
    exact List.prefix_append _ _

/-- A report is never printed as the success line: with colours it begins in another one, and
without them with another letter. -/
theorem report_ne_success (colours : Bool) (contextLines : Int) (sources : SourceLines)
    {ds : List Diagnostic} (h : ds ≠ []) (count : Nat) :
    shownIn colours (report ⟨colours, contextLines⟩ sources ds) ≠ successText colours count := by
  intro hsame
  have hheading := heading_prefix_report ⟨colours, contextLines⟩ sources h
  cases colours with
  | true =>
    have hred : (rendition "31").toList <+: (successText true count).toList := by
      rw [← hsame]
      refine List.IsPrefix.trans ?_ hheading
      simp [ReportStyle.apply, styled, Style.opening, Text.Colour.code, List.prefix_append]
    have hgreen : (rendition "32").toList <+: (successText true count).toList := by
      simp [successText, styled, Style.opening, Text.Colour.code, List.prefix_append]
    have hcolours := List.prefix_of_prefix_length_le hred hgreen (by decide)
    exact absurd (hcolours.eq_of_length (by decide)) (by decide)
  | false =>
    -- The first letter of the heading is not that of the success line.
    have hletter : ['V'] <+: (heading ds).toList := by
      have hword : ['V'] <+: "Validation failed with ".toList := by decide
      unfold heading
      simp only [String.toList_append, List.append_assoc]
      exact hword.trans (List.prefix_append _ _)
    have hreport : ['V'] <+: (report ⟨false, contextLines⟩ sources ds).toList :=
      hletter.trans hheading
    obtain ⟨rest, hrest⟩ := hreport
    have hkept : ['V'] <+: (successText false count).toList := by
      rw [← hsame]
      unfold shownIn unstyled
      rw [if_neg (by decide), String.toList_ofList, ← hrest, unstyledFrom_append (by decide)]
      exact prefix_unstyledFrom ['V'] rest
    have hsuccess : ['A'] <+: (successText false count).toList := by
      have hword : ['A'] <+: "All ".toList := by decide
      unfold successText successLine
      simp only [Bool.false_eq_true, if_false, String.toList_append, List.append_assoc]
      exact hword.trans (List.prefix_append _ _)
    have hletters := List.prefix_of_prefix_length_le hkept hsuccess (by decide)
    exact absurd (hletters.eq_of_length rfl) (by decide)

/-! ## The verdict -/

/-- What is printed after a check says the same as the exit code. For programs it is an object with
the findings, their number, and whether the session has passed. For people it is the success line
exactly if the session has passed, and the report of the findings otherwise. -/
structure PrintsVerdict (terminal : Bool) (s : Settings) (count : Nat) (run : RunState × Batch)
    (v : Verdict) : Prop where
  json : s.outputFormat = "json" → ∃ text, (Json.object
    [("valid", .bool (v.exit == 0)), ("error_count", .count run.1.collector.diagnostics.length),
      ("errors", .array (run.1.collector.diagnostics.map Diagnostic.json))]).text 0 = .ok text
        ∧ v.output = text ++ "\n"
  success : s.outputFormat ≠ "json" →
    (v.output = successText (terminal && !s.noColour) count ++ "\n" ↔ v.exit = 0)
  failure : s.outputFormat ≠ "json" → v.exit ≠ 0 →
    v.output = shownIn (terminal && !s.noColour)
      (report ⟨terminal && !s.noColour, s.contextLines⟩ (SourceLines.ofTexts run.2.contents)
        run.1.collector.diagnostics) ++ "\n"

/-- The verdict of a session is exact: it passes exactly when there is a version, every document
follows the rules, and no two documents declare the same id. Without a version nothing is printed;
otherwise the documents have been checked, and what is printed says the same as the exit code. -/
structure VerdictExact (tree : Tree) (terminal : Bool) (s : Settings) (v : Verdict) : Prop where
  exit : v.exit = 0 ∨ v.exit = 1
  passes : v.exit = 0 ↔ ∃ version,
    expectedVersion tree (Path.ofString s.versionFile) = .ok version
      ∧ (∀ f ∈ s.found tree, f.Passes tree (s.context tree version))
      ∧ ((s.found tree).filterMap (Found.declaredId? tree)).Nodup
  noVersion : ∀ f, expectedVersion tree (Path.ofString s.versionFile) = .error f →
    v.exit = 1 ∧ v.output = ""
  printed : ∀ version, expectedVersion tree (Path.ofString s.versionFile) = .ok version →
    ∃ run, IsChecked tree s version run ∧ PrintsVerdict terminal s (s.found tree).length run v

/-- What is printed after a check of the documents. -/
theorem printsVerdict_of_checked {terminal : Bool} {s : Settings} {v : Verdict}
    {run : RunState × Batch} (hexit : v.exit = if run.1.collector.any then 1 else 0)
    {count : Nat} (houtput : PrintsRun terminal s count run v.output) :
    PrintsVerdict terminal s count run v := by
  obtain ⟨text, htext, houtput⟩ := houtput
  have hzero : v.exit = 0 ↔ run.1.collector.diagnostics = [] := by
    rw [hexit]
    unfold Collector.any Collector.count
    cases run.1.collector.diagnostics <;> simp
  constructor
  · intro hformat
    have hvalid : (v.exit == 0) = run.1.collector.diagnostics.isEmpty := by
      rw [Bool.eq_iff_iff, beq_iff_eq, List.isEmpty_iff]
      exact hzero
    unfold printed at htext
    rw [if_pos (beq_iff_eq.mpr hformat)] at htext
    rw [hvalid]
    exact ⟨text, htext, houtput⟩
  · intro hformat
    rw [houtput, eq_of_printed hformat htext, hzero, String.append_left_inj]
    split
    · next hempty => exact iff_of_true rfl (List.isEmpty_iff.mp hempty)
    · next hsome =>
      have hne : run.1.collector.diagnostics ≠ [] := fun h => hsome (List.isEmpty_iff.mpr h)
      exact iff_of_false (report_ne_success _ _ _ hne _) hne
  · intro hformat hfailed
    rw [houtput, eq_of_printed hformat htext, if_neg]
    rw [List.isEmpty_iff]
    exact fun h => hfailed (hzero.mpr h)

/-- A session passes exactly when there is a version, every document follows the rules, and no two
documents declare the same id. -/
theorem EndsWith.exit_eq_zero_iff {tree : Tree} (htree : tree.WellNamed) {terminal : Bool}
    {s : Settings} {v : Verdict} (h : EndsWith tree terminal s v) :
    v.exit = 0 ↔ ∃ version, expectedVersion tree (Path.ofString s.versionFile) = .ok version
      ∧ (∀ f ∈ s.found tree, f.Passes tree (s.context tree version))
      ∧ ((s.found tree).filterMap (Found.declaredId? tree)).Nodup := by
  cases h.outcome with
  | @noVersion f hversion hexit houtput =>
    rw [hexit, hversion]
    simp
  | @checked version run hrun hexit houtput =>
    obtain ⟨hversion, sources, hread, rfl⟩ := hrun
    have hclean := any_eq_false_iff htree hread (s.context tree version) s.maxWorkers
    have hzero : v.exit = 0 ↔ (runBatch (s.context tree version) s.maxWorkers {} sources
        ).1.collector.any = false := by
      rw [hexit]
      split
      · next hany => simp [hany]
      · next hany => simpa using hany
    rw [hzero, hclean]
    constructor
    · rintro ⟨hpasses, hids⟩
      exact ⟨version, hversion, hpasses, hids⟩
    · rintro ⟨other, hother, hpasses, hids⟩
      obtain rfl : version = other := Except.ok.inj (hversion.symm.trans hother)
      exact ⟨hpasses, hids⟩

/-- The verdict of every session over a tree of a file system is exact. -/
theorem endsWith_verdictExact {tree : Tree} (htree : tree.WellNamed) {terminal : Bool}
    {s : Settings} {v : Verdict} (h : EndsWith tree terminal s v) :
    VerdictExact tree terminal s v := by
  have hpasses := h.exit_eq_zero_iff htree
  cases h.outcome with
  | @noVersion f hversion hexit houtput =>
    refine ⟨.inr hexit, hpasses, fun _ _ => ⟨hexit, houtput⟩, ?_⟩
    intro version hok
    rw [hversion] at hok
    cases hok
  | @checked version run hrun hexit houtput =>
    refine ⟨?_, hpasses, ?_, ?_⟩
    · rw [hexit]
      split
      · exact .inr rfl
      · exact .inl rfl
    · intro f herror
      rw [hrun.expected] at herror
      cases herror
    · intro other hother
      obtain rfl : version = other := Except.ok.inj (hrun.expected.symm.trans hother)
      exact ⟨run, hrun, printsVerdict_of_checked hexit houtput⟩

/-- A file of a tree, by its path and its text. -/
def textFile (path text : String) : Path × Option (List UInt8) :=
  (Path.ofString path, some text.toUTF8.toList)

/-- A version and a tenet. -/
def sampleFiles : List (Path × Option (List UInt8)) :=
  [textFile "VERSION" "1.0.0\n",
   textFile "docs/tenets/simplicity.md"
    "---\nid: simplicity\nlast_modified: '2025-05-10'\nversion: '1.0.0'\n---\n"]

/-- The verdict about the sample is exact, and the session passes. -/
theorem verdictExact_sampleFiles :
    ∃ v, EndsWith (Tree.ofFiles sampleFiles) false {} v ∧ v.exit = 0
      ∧ VerdictExact (Tree.ofFiles sampleFiles) false {} v := by
  have hnamed : (Tree.ofFiles sampleFiles).WellNamed := by
    apply Tree.wellNamed_ofFiles
    unfold IsFileName
    decide +kernel
  have hexit :
      (runWith (Tree.ofFiles sampleFiles) false {}).toOption.map Verdict.exit = some 0 := by
    decide +kernel
  obtain ⟨v, hv, hzero⟩ := Option.map_eq_some_iff.mp hexit
  have hends : EndsWith (Tree.ofFiles sampleFiles) false {} v := by
    cases hrun : runWith (Tree.ofFiles sampleFiles) false {} with
    | error f =>
      rw [hrun] at hv
      cases hv
    | ok w =>
      rw [hrun] at hv
      exact .given (hrun.trans (congrArg Except.ok (Option.some.inj hv)))
  exact ⟨v, hends, hzero, endsWith_verdictExact hnamed hends⟩

end FrontMatter
