import FrontMatter.Proofs.PlainValues
import FrontMatter.Proofs.RuleFindings
import FrontMatter.Run.Batch

/-!
# `FrontMatter.Proofs.Batches` — a batch is its documents, one after the other

The check of a batch threads the owners of ids through the documents in the order of their paths,
and adds what it finds about each of them.

## Contents

* `Source.Gives`: the mapping that a document gives to the rules.
* `Source.Gives.exists_read`, `judge_of_gives`, `judge_of_not_gives`: the check of one document.
* `mem_judge`: what a finding about a document is about.
* `judgeAll`, `judgeAll_append`: the check of several documents.
* `findingsIn_judgeAll`: the findings in a file that one document has.
* `runBatch_eq`: the findings and the owners that a batch leaves.
* `keepValues`, `contents_runBatch`, `documents_runBatch`: the contents and documents that it keeps.
-/

namespace FrontMatter

open Block (LineMap)

/-! ## Mappings that have been read -/

/-- A block that is read has no errors. -/
theorem errors_of_ofText {text : String} {doc : Document} (h : Reading.ofText text = .ok doc) :
    doc.errors = [] := by
  unfold Reading.ofText at h
  split at h
  · cases h
    rfl
  · split at h
    · cases h
    · cases h
      rfl

/-- A block that is read as a mapping denotes it. -/
theorem valueOfText_of_ofText {text : String} {doc : Document} {entries : Entries Value}
    (h : Reading.ofText text = .ok doc) (hcontent : doc.content = .mapping entries) :
    valueOfText text = .ok (.map entries) ∧ doc.lines = LineMap.ofText text entries.holds := by
  unfold Reading.ofText at h
  split at h
  · cases h
    cases hcontent
  · split at h
    · cases h
    · next v hv =>
      cases h
      dsimp only at hcontent ⊢
      rw [hcontent]
      have hmap : v = .map entries := by
        unfold Content.ofValue at hcontent
        split at hcontent <;> cases hcontent
        rfl
      exact ⟨hmap ▸ hv, rfl⟩

/-- The lines of a mapping that is read are those of its keys, and its keys are distinct. -/
theorem mapping_of_ofText {text : String} {doc : Document} {entries : Entries Value}
    (h : Reading.ofText text = .ok doc) (hcontent : doc.content = .mapping entries) :
    doc.lines = LineMap.ofText text entries.holds ∧ entries.keys.Nodup := by
  obtain ⟨hvalue, hlines⟩ := valueOfText_of_ofText h hcontent
  exact ⟨hlines, (isPlain_of_valueOfText hvalue).nodup_keys⟩

/-! ## The mapping of a document -/

/-- A document of a known kind whose block is read as a mapping, and the mapping as the rules look
at it. -/
structure Source.Gives (context : Context) (s : Source) (given : Subject) : Prop where
  file : given.file = s.path
  kind : s.kind = given.kind.word
  schema : SchemaTable.standard.get? given.kind = some given.schema
  context : given.context = context
  block : ∃ text doc, s.block = .text text ∧ Reading.ofText text = .ok doc
    ∧ doc.content = .mapping given.entries ∧ doc.lines = given.lines

/-- The keys of the mapping of a document are distinct. -/
theorem Source.Gives.nodup_keys {context : Context} {s : Source} {given : Subject}
    (h : s.Gives context given) : given.entries.keys.Nodup := by
  obtain ⟨text, doc, -, hread, hcontent, -⟩ := h.block
  exact (mapping_of_ofText hread hcontent).2

/-- A document gives one mapping to the rules. -/
theorem Source.Gives.unique {context : Context} {s : Source} {given other : Subject}
    (h : s.Gives context given) (hother : s.Gives context other) : given = other := by
  have hkind : given.kind = other.kind := by
    have hword : DocumentKind.ofWord? given.kind.word = DocumentKind.ofWord? other.kind.word := by
      rw [← h.kind, ← hother.kind]
    rw [DocumentKind.ofWord?_word, DocumentKind.ofWord?_word] at hword
    exact Option.some.inj hword
  have hschema : given.schema = other.schema := by
    apply Option.some.inj
    rw [← h.schema, ← hother.schema, hkind]
  obtain ⟨text, doc, hblock, hread, hcontent, hlines⟩ := h.block
  obtain ⟨text', doc', hblock', hread', hcontent', hlines'⟩ := hother.block
  obtain rfl : text = text' := BlockInput.text.inj (hblock.symm.trans hblock')
  obtain rfl : doc = doc' := Except.ok.inj (hread.symm.trans hread')
  have hentries : given.entries = other.entries :=
    Content.mapping.inj (hcontent.symm.trans hcontent')
  have hfile : given.file = other.file := h.file.trans hother.file.symm
  have hcontext : given.context = other.context := h.context.trans hother.context.symm
  have hsame : given.lines = other.lines := hlines.symm.trans hlines'
  cases given
  cases other
  rw [Subject.mk.injEq]
  exact ⟨hfile, hkind, hschema, hcontext, hentries, hsame⟩

/-- No schema lists a required key twice. -/
theorem nodup_required_of_get?_standard {kind : DocumentKind} {schema : Schema}
    (h : SchemaTable.standard.get? kind = some schema) : schema.required.Nodup := by
  cases kind <;> cases h <;> decide

/-! ## One document -/

/-- The findings about one document of a batch, and the registry afterwards. -/
def judge (context : Context) (registry : Registry) (s : Source) : List Diagnostic × Registry :=
  match s.read with
  | .error message => ([failureFinding s "process" message], registry)
  | .ok reading =>
    match checkSource context s (reading.map Document.ofReading) registry with
    | (.ok ds, registry) => (ds, registry)
    | (.error f, registry) => ([failureFinding s "validate" f.message], registry)

/-- A document with a mapping is read, and its check is that of the mapping against the rules. -/
theorem Source.Gives.exists_read {context : Context} {s : Source} {given : Subject}
    (h : s.Gives context given) : ∃ reading, s.read = .ok reading ∧ ∀ registry,
      checkSource context s (reading.map Document.ofReading) registry
        = ((checkMapping given registry).1.map fun ds => ds.map (Diagnostic.shift s.lineOffset),
          (checkMapping given registry).2) := by
  obtain ⟨text, doc, hblock, hread, hcontent, hlines⟩ := h.block
  refine ⟨some (.ok doc), by simp [Source.read, hblock, hread], fun registry => ?_⟩
  have hcheck : checkDocument SchemaTable.standard context s.kind s.path doc registry
      = checkMapping given registry := by
    rw [h.kind, checkDocument_eq_checkMapping h.schema context s.path (errors_of_ofText hread)
      hcontent registry, ← h.file, ← h.context, hlines]
  simp only [Option.map_some, Document.ofReading, checkSource, hcheck]

/-- A document with a mapping is checked against the rules. -/
theorem judge_of_gives {context : Context} {s : Source} {given : Subject}
    (h : s.Gives context given) (registry : Registry) :
    judge context registry s =
      match checkMapping given registry with
      | (.ok ds, registry) => (ds.map (Diagnostic.shift s.lineOffset), registry)
      | (.error f, registry) => ([failureFinding s "validate" f.message], registry) := by
  obtain ⟨reading, hread, hcheck⟩ := h.exists_read
  unfold judge
  rw [hread]
  dsimp only
  rw [hcheck]
  obtain ⟨result, after⟩ := checkMapping given registry
  cases result <;> rfl

/-- A finding in a file that is not about a field, and so not about an id. -/
def Diagnostic.IsGeneral (file : String) (d : Diagnostic) : Prop :=
  d.file = file ∧ d.field = none ∧ d.kind ≠ .duplicateId

/-- A document that cannot be checked is told in a general finding. -/
theorem isGeneral_failureFinding (s : Source) (what message : String) :
    (failureFinding s what message).IsGeneral s.path :=
  ⟨rfl, rfl, by simp [failureFinding]⟩

/-- A document that is no mapping claims nothing, and is told in one or more general findings, which
are the same whoever owns the ids. -/
theorem checkKnown_of_no_mapping (context : Context) (kind : DocumentKind) (schema : Schema)
    (file : String) {doc : Document}
    (h : doc.errors = [] → ∀ entries, doc.content ≠ .mapping entries) :
    ∃ ds, (∀ registry, checkKnown context kind schema file doc registry = (.ok ds, registry))
      ∧ ds ≠ [] ∧ ∀ d ∈ ds, d.IsGeneral file := by
  unfold checkKnown
  split
  · next hread =>
    refine ⟨_, fun _ => rfl, by simpa using hread, ?_⟩
    intro d hd
    obtain ⟨e, -, rfl⟩ := List.mem_map.mp hd
    exact ⟨rfl, rfl, by simp [readingFinding]⟩
  · next hread =>
    have hno := h (by simpa using hread)
    split
    · exact ⟨_, fun _ => rfl, by simp, by simp [Diagnostic.IsGeneral, emptyFinding]⟩
    · next entries hcontent => exact absurd hcontent (hno entries)
    · exact ⟨_, fun _ => rfl, by simp, by simp [Diagnostic.IsGeneral, shapeFinding]⟩

/-- A kind that is found by a name has the name. -/
theorem eq_word_of_ofWord? {name : String} {kind : DocumentKind}
    (h : DocumentKind.ofWord? name = some kind) : name = kind.word := by
  unfold DocumentKind.ofWord? at h
  split at h
  · next htenet =>
    cases h
    exact beq_iff_eq.mp htenet
  · split at h
    · next hbinding =>
      cases h
      exact beq_iff_eq.mp hbinding
    · cases h

/-- A kind that is found with a schema has the name and the schema. -/
theorem word_of_find {schemas : SchemaTable} {name : String} {kind : DocumentKind} {schema : Schema}
    (h : schemas.find name = .ok (kind, schema)) :
    name = kind.word ∧ schemas.get? kind = some schema := by
  obtain ⟨k, hk, h⟩ := exists_of_bind_eq_ok h
  have hword : name = k.word := by
    unfold kindOfName at hk
    split at hk
    · next k' hk' =>
      cases hk
      exact eq_word_of_ofWord? hk'
    · cases hk
  split at h
  · next s hs =>
    cases h
    exact ⟨hword, hs⟩
  · cases h

/-- A document without a mapping claims nothing, and is told in one or more general findings, which
are the same whoever owns the ids. -/
theorem judge_of_not_gives {context : Context} {s : Source}
    (h : ∀ given, ¬ s.Gives context given) :
    ∃ ds, (∀ registry, judge context registry s = (ds, registry))
      ∧ ds ≠ [] ∧ ∀ d ∈ ds, d.IsGeneral s.path := by
  have hfailure : ∀ what message, ∀ d ∈ [failureFinding s what message], d.IsGeneral s.path := by
    simp [isGeneral_failureFinding]
  unfold judge Source.read
  cases hblock : s.block with
  | missing =>
    exact ⟨_, fun _ => rfl, by simp, by simp [Diagnostic.IsGeneral, missingBlockFinding]⟩
  | foreign name => exact ⟨_, fun _ => rfl, by simp, hfailure _ _⟩
  | text t =>
    simp only [Option.map_some, checkSource, checkDocument]
    cases hfind : SchemaTable.standard.find s.kind with
    | error f => exact ⟨_, fun _ => rfl, by simp, hfailure _ _⟩
    | ok found =>
      obtain ⟨kind, schema⟩ := found
      obtain ⟨hword, hschema⟩ := word_of_find hfind
      -- A reading without errors that is a mapping would be given to the rules.
      have hno : (Document.ofReading (Reading.ofText t)).errors = [] →
          ∀ entries, (Document.ofReading (Reading.ofText t)).content ≠ .mapping entries := by
        intro hread entries hcontent
        cases hreading : Reading.ofText t with
        | error f =>
          rw [hreading] at hread
          cases hread
        | ok doc =>
          rw [hreading] at hcontent
          exact h ⟨s.path, kind, schema, context, entries, doc.lines⟩
            ⟨rfl, hword, hschema, rfl, t, doc, hblock, hreading, hcontent, rfl⟩
      obtain ⟨ds, hcheck, hne, hgeneral⟩ :=
        checkKnown_of_no_mapping context kind schema s.path hno
      simp only [hcheck]
      refine ⟨_, fun _ => rfl, by simpa using hne, ?_⟩
      intro d hd
      obtain ⟨e, he, rfl⟩ := List.mem_map.mp hd
      exact hgeneral e he

/-- A finding about a document is general, or one about the mapping of the document. -/
theorem mem_judge {context : Context} {registry : Registry} {s : Source} {d : Diagnostic}
    (hd : d ∈ (judge context registry s).1) :
    d.IsGeneral s.path ∨ ∃ given ds, s.Gives context given
      ∧ Reports given (Breaks given registry) ds ∧ ∃ e ∈ ds, d = e.shift s.lineOffset := by
  by_cases hgives : ∃ given, s.Gives context given
  · obtain ⟨given, hgiven⟩ := hgives
    rw [judge_of_gives hgiven] at hd
    cases hcheck : checkMapping given registry with
    | mk result after =>
      rw [hcheck] at hd
      cases result with
      | error f =>
        -- The check has stopped, which is told in one general finding.
        rw [List.mem_singleton.mp hd]
        exact .inl (isGeneral_failureFinding s _ _)
      | ok ds =>
        obtain ⟨e, he, rfl⟩ := List.mem_map.mp hd
        have hreports : Reports given (Breaks given registry) ds :=
          checkMapping_reports_of_ok (congrArg Prod.fst hcheck)
            (nodup_required_of_get?_standard hgiven.schema) hgiven.nodup_keys
        exact .inr ⟨given, ds, hgiven, hreports, e, he, rfl⟩
  · obtain ⟨ds, hjudge, -, hgeneral⟩ :=
      judge_of_not_gives fun given hgiven => hgives ⟨given, hgiven⟩
    rw [hjudge] at hd
    exact .inl (hgeneral d hd)

/-- Every finding about a document is in its file. -/
theorem file_of_mem_judge {context : Context} {registry : Registry} {s : Source} {d : Diagnostic}
    (hd : d ∈ (judge context registry s).1) : d.file = s.path := by
  rcases mem_judge hd with hgeneral | ⟨given, ds, hgiven, hreports, e, he, rfl⟩
  · exact hgeneral.1
  · exact (hreports.placed e he).1.trans hgiven.file

/-! ## Several documents -/

/-- The findings about some documents, one after the other, and the registry afterwards. -/
def judgeAll (context : Context) (registry : Registry) : List Source → List Diagnostic × Registry
  | [] => ([], registry)
  | s :: rest =>
    let (ds, registry) := judge context registry s
    let (es, registry) := judgeAll context registry rest
    (ds ++ es, registry)

/-- The first document is checked before the others. -/
theorem judgeAll_cons (context : Context) (registry : Registry) (s : Source)
    (rest : List Source) :
    judgeAll context registry (s :: rest)
      = ((judge context registry s).1 ++ (judgeAll context (judge context registry s).2 rest).1,
        (judgeAll context (judge context registry s).2 rest).2) :=
  rfl

/-- Documents are checked with the owners that the documents before them have left. -/
theorem judgeAll_append (context : Context) (registry : Registry) (pre post : List Source) :
    judgeAll context registry (pre ++ post)
      = ((judgeAll context registry pre).1
          ++ (judgeAll context (judgeAll context registry pre).2 post).1,
        (judgeAll context (judgeAll context registry pre).2 post).2) := by
  induction pre generalizing registry with
  | nil => rfl
  | cons s pre ih =>
    rw [List.cons_append, judgeAll_cons, ih, judgeAll_cons, List.append_assoc]

/-- A finding about some documents is one about one of them. -/
theorem exists_of_mem_judgeAll {context : Context} {registry : Registry} {sources : List Source}
    {d : Diagnostic} (h : d ∈ (judgeAll context registry sources).1) :
    ∃ s ∈ sources, ∃ before, d ∈ (judge context before s).1 := by
  induction sources generalizing registry with
  | nil => cases h
  | cons s rest ih =>
    rcases List.mem_append.mp h with h | h
    · exact ⟨s, List.mem_cons_self, registry, h⟩
    · obtain ⟨t, ht, hd⟩ := ih h
      exact ⟨t, List.mem_cons_of_mem s ht, hd⟩

/-- The findings in a file. -/
def findingsIn (path : String) (ds : List Diagnostic) : List Diagnostic :=
  ds.filter fun d => d.file == path

/-- Documents at other paths have no findings in a file. -/
theorem findingsIn_judgeAll_of_not_mem {context : Context} {registry : Registry}
    {sources : List Source} {path : String} (h : path ∉ sources.map Source.path) :
    findingsIn path (judgeAll context registry sources).1 = [] := by
  unfold findingsIn
  rw [List.filter_eq_nil_iff]
  intro d hd hfile
  obtain ⟨t, ht, before, hjudged⟩ := exists_of_mem_judgeAll hd
  rw [beq_iff_eq, file_of_mem_judge hjudged] at hfile
  exact h (List.mem_map.mpr ⟨t, ht, hfile⟩)

/-- The findings in the file of a document, where no other document has its path, are those about
the document in its place. -/
theorem findingsIn_judgeAll {context : Context} {registry : Registry} {pre post : List Source}
    {s : Source} (hpre : s.path ∉ pre.map Source.path) (hpost : s.path ∉ post.map Source.path) :
    findingsIn s.path (judgeAll context registry (pre ++ s :: post)).1
      = (judge context (judgeAll context registry pre).2 s).1 := by
  have hself : findingsIn s.path (judge context (judgeAll context registry pre).2 s).1
      = (judge context (judgeAll context registry pre).2 s).1 := by
    unfold findingsIn
    rw [List.filter_eq_self]
    intro d hd
    exact beq_iff_eq.mpr (file_of_mem_judge hd)
  rw [judgeAll_append, judgeAll_cons]
  show findingsIn s.path (_ ++ (_ ++ _)) = _
  unfold findingsIn at *
  rw [List.filter_append, List.filter_append, hself]
  show findingsIn _ _ ++ (_ ++ findingsIn _ _) = _
  rw [findingsIn_judgeAll_of_not_mem hpre, findingsIn_judgeAll_of_not_mem hpost, List.nil_append,
    List.append_nil]

/-! ## Batches -/

/-- Sorting keeps the documents. -/
theorem sortSources_perm (sources : List Source) : (sortSources sources).Perm sources :=
  List.mergeSort_perm sources _

/-- The document that the block of a source is read as, where there is a block of text. -/
def Source.document? (s : Source) : Option Document :=
  match s.read with
  | .error _ => none
  | .ok reading => reading.map Document.ofReading

/-- One step of a batch judges the document, and keeps it and its content. -/
theorem checkParsed_eq (context : Context) (now : RunState × Batch) (s : Source) :
    let judged := judge context now.1.registry s
    let next := checkParsed context now (s, s.read)
    next.1 = ⟨judged.2, now.1.collector.extend judged.1⟩
      ∧ next.2.contents = addContent now.2.contents s
      ∧ next.2.documents = addDocument now.2.documents s s.document? := by
  obtain ⟨state, batch⟩ := now
  unfold judge checkParsed Source.document?
  cases s.read with
  | error message => exact ⟨rfl, rfl, rfl⟩
  | ok reading =>
    dsimp only
    obtain ⟨result, registry⟩ :=
      checkSource context s (reading.map Document.ofReading) state.registry
    cases result <;> exact ⟨rfl, rfl, rfl⟩

/-- The second pass of a batch judges the documents in their order. -/
theorem foldl_checkParsed_eq (context : Context) (now : RunState × Batch) (sources : List Source) :
    let judged := judgeAll context now.1.registry sources
    let last := (readAll sources).foldl (checkParsed context) now
    last.1 = ⟨judged.2, now.1.collector.extend judged.1⟩
      ∧ last.2.contents = sources.foldl addContent now.2.contents
      ∧ last.2.documents
        = sources.foldl (fun t s => addDocument t s s.document?) now.2.documents := by
  -- By induction on the documents, for any state and batch that the pass starts from.
  induction sources generalizing now with
  | nil => simp [readAll, judgeAll, Collector.extend]
  | cons s rest ih =>
    obtain ⟨hstate, hcontents, hdocuments⟩ := checkParsed_eq context now s
    obtain ⟨hlast, hkept, hread⟩ := ih (checkParsed context now (s, s.read))
    rw [hstate] at hlast
    rw [hcontents] at hkept
    rw [hdocuments] at hread
    refine ⟨hlast.trans ?_, hkept, hread⟩
    simp [judgeAll_cons, Collector.extend]

/-- A batch judges its documents in the order of their paths, and keeps their contents. -/
theorem runBatch_eq (context : Context) (workers : Int) (state : RunState)
    (sources : List Source) :
    let judged := judgeAll context state.registry (sortSources sources)
    let run := runBatch context workers state sources
    run.1 = ⟨judged.2, state.collector.extend judged.1⟩
      ∧ run.2.contents = (sortSources sources).foldl addContent [] := by
  obtain ⟨hstate, hcontents, -⟩ := foldl_checkParsed_eq context
    (state, { log := startRecord sources.length workers
      :: (readAll (sortSources sources)).flatMap fun p => readingLog p.1 p.2 })
    (sortSources sources)
  exact ⟨hstate, hcontents⟩

/-! ## What a batch keeps -/

section Kept

variable {α : Type}

/-- A table with the value of one more document, if it has one, at the path of the document. -/
def keepValue (value : Source → Option α) (kept : Entries α) (s : Source) : Entries α :=
  match value s with
  | none => kept
  | some v => kept.put s.path v

/-- A table with the values of more documents, added one after the other. -/
def keepValues (value : Source → Option α) (kept : Entries α) (sources : List Source) :
    Entries α :=
  sources.foldl (keepValue value) kept

/-- The contents of a batch are the contents of its documents. -/
theorem foldl_addContent_eq (contents : Entries String) (sources : List Source) :
    sources.foldl addContent contents = keepValues Source.content contents sources := by
  have hstep : addContent = keepValue Source.content := by
    funext t s
    unfold addContent keepValue
    cases s.content <;> rfl
  rw [hstep]
  rfl

/-- The contents that a batch keeps. -/
theorem contents_runBatch (context : Context) (workers : Int) (state : RunState)
    (sources : List Source) : (runBatch context workers state sources).2.contents
      = keepValues Source.content [] (sortSources sources) := by
  rw [(runBatch_eq context workers state sources).2, foldl_addContent_eq]

/-- The documents that a batch keeps. -/
theorem documents_runBatch (context : Context) (workers : Int) (state : RunState)
    (sources : List Source) : (runBatch context workers state sources).2.documents
      = keepValues Source.document? [] (sortSources sources) := by
  obtain ⟨-, -, hdocuments⟩ := foldl_checkParsed_eq context
    (state, { log := startRecord sources.length workers
      :: (readAll (sortSources sources)).flatMap fun p => readingLog p.1 p.2 })
    (sortSources sources)
  have hstep : (fun t s => addDocument t s s.document?) = keepValue Source.document? := by
    funext t s
    unfold addDocument keepValue
    cases s.document? <;> rfl
  rw [hstep] at hdocuments
  exact hdocuments

/-- A document changes the value at its own path only, and only if it has a value. -/
theorem get?_keepValue (value : Source → Option α) (kept : Entries α) (s : Source)
    (path : String) : (keepValue value kept s).get? path
      = if s.path = path then (value s).or (kept.get? path) else kept.get? path := by
  unfold keepValue
  cases value s with
  | none =>
    show kept.get? path = _
    rw [Option.none_or, ite_self]
  | some v =>
    show (kept.put s.path v).get? path = _
    rw [Table.get?_put]
    by_cases hpath : s.path = path
    · rw [if_pos (beq_iff_eq.mpr hpath), if_pos hpath]
      rfl
    · rw [if_neg (by simpa using hpath), if_neg hpath]

/-- The values of documents are added after those of the documents before them. -/
theorem keepValues_append (value : Source → Option α) (kept : Entries α)
    (pre post : List Source) :
    keepValues value kept (pre ++ post) = keepValues value (keepValues value kept pre) post :=
  List.foldl_append

/-- Documents at other paths leave the value at a path as it is. -/
theorem get?_keepValues_of_not_mem (value : Source → Option α) (kept : Entries α)
    {sources : List Source} {path : String} (h : path ∉ sources.map Source.path) :
    (keepValues value kept sources).get? path = kept.get? path := by
  induction sources generalizing kept with
  | nil => rfl
  | cons s rest ih =>
    rw [List.map_cons, List.mem_cons, not_or] at h
    show (keepValues value (keepValue value kept s) rest).get? path = _
    rw [ih _ h.2, get?_keepValue, if_neg fun hsame => h.1 hsame.symm]

/-- The last document with a path leaves its value there, if it has one. -/
theorem get?_keepValues_split (value : Source → Option α) (kept : Entries α) {s : Source}
    (pre : List Source) {post : List Source} (h : s.path ∉ post.map Source.path) :
    (keepValues value kept (pre ++ s :: post)).get? s.path
      = (value s).or ((keepValues value kept pre).get? s.path) := by
  rw [keepValues_append]
  show (keepValues value (keepValue value (keepValues value kept pre) s) post).get? s.path = _
  rw [get?_keepValues_of_not_mem value _ h, get?_keepValue, if_pos rfl]

/-- Of documents with distinct paths every one leaves its content. -/
theorem get?_foldl_addContent (contents : Entries String) {sources : List Source}
    (hpaths : (sources.map Source.path).Nodup) {s : Source} (hs : s ∈ sources) {text : String}
    (htext : s.content = some text) :
    (sources.foldl addContent contents).get? s.path = some text := by
  obtain ⟨pre, post, rfl⟩ := List.append_of_mem hs
  rw [List.map_append, List.map_cons, List.nodup_append, List.nodup_cons] at hpaths
  rw [foldl_addContent_eq, get?_keepValues_split Source.content contents pre hpaths.2.1.1, htext]
  rfl

/-- A batch of documents with distinct paths keeps the content of each. -/
theorem get?_contents_runBatch (context : Context) (workers : Int) (state : RunState)
    {sources : List Source} (hpaths : (sources.map Source.path).Nodup) {s : Source}
    (hs : s ∈ sources) {text : String} (htext : s.content = some text) :
    (runBatch context workers state sources).2.contents.get? s.path = some text := by
  have hperm := sortSources_perm sources
  rw [(runBatch_eq context workers state sources).2]
  exact get?_foldl_addContent [] ((hperm.map Source.path).nodup_iff.mpr hpaths)
    (hperm.mem_iff.mpr hs) htext

end Kept

end FrontMatter
