import FrontMatter.Proofs.LongNumbers
import FrontMatter.Proofs.Neighbours

/-!
# `FrontMatter.Proofs.OneByOne` — a batch is its documents, validated one by one

A batch reads all of its documents before it checks the first, and it goes on after documents that
cannot be read or checked. Still it leaves what comes from validating the documents alone, one after
the other, in the order of their paths. So two batches whose paths are in order are one batch.

A document whose validation fails is told in one finding. It leaves the owners as they were, unless
it is a binding that has become the owner of its id before its check stops.

## Contents

* `IsStableSort`, `isStableSort_sortSources`, `sortSources_append`: the order of a batch.
* `Visit`, `visitAll`: documents that are validated one after the other.
* `judge_eq_visit`, `judgeAll_eq_visitAll`: what a batch takes from them.
* `Visit.Fails`, `fails_of_result_eq_error`: documents whose validation fails.
* `get?_keepValues`: what a batch keeps at a path.
* `RunsOneByOne`, `runBatch_oneByOne`: a batch, and two batches in order.
* `runBatch_heldId_changesOwners`: a document that fails and still owns its id.
-/

namespace FrontMatter

/-! ## The order of a batch -/

/-- The documents at a path, in their order. -/
def sourcesAt (path : String) (sources : List Source) : List Source :=
  sources.filter fun s => s.path == path

/-- The documents of a batch in the order of their paths, those at one path as they were given. -/
structure IsStableSort (sources sorted : List Source) : Prop where
  perm : sorted.Perm sources
  ordered : SortedByPath sorted
  stable : ∀ path, sourcesAt path sorted = sourcesAt path sources

/-- Documents that are in order stay as they are. -/
theorem sortSources_of_sortedByPath {sources : List Source} (h : SortedByPath sources) :
    sortSources sources = sources := by
  apply List.mergeSort_of_pairwise
  exact h.imp mayPrecede_iff.mpr

/-- A batch sorts its documents stably. -/
theorem isStableSort_sortSources (sources : List Source) :
    IsStableSort sources (sortSources sources) where
  perm := sortSources_perm sources
  ordered := sortedByPath_sortSources sources
  stable := by
    intro path
    have hsame : SortedByPath (sourcesAt path sources) := by
      rw [SortedByPath, List.pairwise_iff_forall_sublist]
      intro s t hsub
      have hs : s ∈ sourcesAt path sources := hsub.subset (by simp)
      have ht : t ∈ sourcesAt path sources := hsub.subset (by simp)
      rw [beq_iff_eq.mp (List.mem_filter.mp hs).2, beq_iff_eq.mp (List.mem_filter.mp ht).2]
    unfold sourcesAt at hsame ⊢
    rw [← sortSources_filter, sortSources_of_sortedByPath hsame]

/-- Documents before others by their paths are sorted for themselves, and stand before them. -/
theorem sortSources_append {first second : List Source}
    (h : ∀ s ∈ first, ∀ t ∈ second, s.path ≤ t.path) :
    sortSources (first ++ second) = sortSources first ++ sortSources second := by
  induction first with
  | nil => simp [sortSources]
  | cons s rest ih =>
    have hrest := ih fun t ht => h t (List.mem_cons_of_mem s ht)
    obtain ⟨before, after, hcut, hcons, hbefore, hafter⟩ := exists_cut_sortSources s rest
    rw [hcut, List.append_assoc] at hrest
    rw [hcons, List.append_assoc, List.cons_append, List.cons_append]
    apply sortSources_cons hrest hbefore
    intro t ht
    rcases List.mem_append.mp ht with ht | ht
    · exact hafter t ht
    · exact h s List.mem_cons_self t ((sortSources_perm second).mem_iff.mp ht)

/-! ## Documents one by one -/

/-- The failure of a document as the one finding about it. -/
def SourceFault.finding (s : Source) : SourceFault → Diagnostic
  | .foreign message => failureFinding s "process" message
  | .rule f => failureFinding s "validate" f.message

/-- The validation of one document: the owners before it, what it gives, and the owners after it. -/
structure Visit where
  source : Source
  before : Registry
  result : Except SourceFault (Option Document × List Diagnostic)
  after : Registry

/-- Validates a document by itself. -/
def visit (context : Context) (registry : Registry) (s : Source) : Visit :=
  let (result, after) := validateSource context s registry
  ⟨s, registry, result, after⟩

/-- Validates documents one after the other, each with the owners that the one before has left. -/
def visitAll (context : Context) (registry : Registry) : List Source → List Visit
  | [] => []
  | s :: rest =>
    let v := visit context registry s
    v :: visitAll context v.after rest

/-- What is found in a visit: what the validation gives, or the failure. -/
def Visit.findings (v : Visit) : List Diagnostic :=
  match v.result with
  | .ok (_, ds) => ds
  | .error f => [f.finding v.source]

/-- The owners after the last of some visits. -/
def ownersAfter (registry : Registry) (visits : List Visit) : Registry :=
  (visits.getLast?.map Visit.after).getD registry

/-- After a first visit the owners are those after the others. -/
theorem ownersAfter_cons (registry : Registry) (v : Visit) (rest : List Visit) :
    ownersAfter registry (v :: rest) = ownersAfter v.after rest := by
  unfold ownersAfter
  rw [List.getLast?_cons]
  cases rest.getLast? <;> rfl

/-- A batch judges a document by validating it. -/
theorem judge_eq_visit (context : Context) (registry : Registry) (s : Source) :
    judge context registry s
      = ((visit context registry s).findings, (visit context registry s).after) := by
  unfold judge visit validateSource Visit.findings
  cases s.read with
  | error message => rfl
  | ok reading =>
    dsimp only
    obtain ⟨result, after⟩ := checkSource context s (reading.map Document.ofReading) registry
    cases result <;> rfl

/-- A batch judges its documents by validating them one after the other. -/
theorem judgeAll_eq_visitAll (context : Context) (registry : Registry) (sources : List Source) :
    judgeAll context registry sources
      = ((visitAll context registry sources).flatMap Visit.findings,
        ownersAfter registry (visitAll context registry sources)) := by
  induction sources generalizing registry with
  | nil => rfl
  | cons s rest ih =>
    rw [judgeAll_cons, judge_eq_visit, ih, visitAll, List.flatMap_cons, ownersAfter_cons]

/-- The documents are visited in their order. -/
theorem map_source_visitAll (context : Context) (registry : Registry) (sources : List Source) :
    (visitAll context registry sources).map Visit.source = sources := by
  induction sources generalizing registry with
  | nil => rfl
  | cons s rest ih => exact congrArg (s :: ·) (ih _)

/-- A visit is that of a document, with some owners before it. -/
theorem exists_of_mem_visitAll {context : Context} {registry : Registry} {sources : List Source}
    {v : Visit} (h : v ∈ visitAll context registry sources) :
    ∃ before s, v = visit context before s := by
  induction sources generalizing registry with
  | nil => cases h
  | cons s rest ih =>
    rcases List.mem_cons.mp h with rfl | h
    · exact ⟨registry, s, rfl⟩
    · exact ih h

/-- A validation that succeeds gives the document that the block is read as. -/
theorem document?_of_visit {context : Context} {registry : Registry} {s : Source}
    {doc : Option Document} {ds : List Diagnostic}
    (h : (visit context registry s).result = .ok (doc, ds)) : doc = s.document? := by
  unfold visit validateSource at h
  unfold Source.document?
  cases hread : s.read with
  | error message =>
    rw [hread] at h
    cases h
  | ok reading =>
    rw [hread] at h
    dsimp only at h ⊢
    cases hcheck : checkSource context s (reading.map Document.ofReading) registry with
    | mk result after =>
      rw [hcheck] at h
      cases result with
      | error f => cases h
      | ok es =>
        cases h
        rfl

/-! ## Documents whose validation fails -/

/-- A binding becomes the owner of its id, and then its check stops at the tenet that it names,
which is too long to be quoted. -/
structure Visit.ClaimsThenStops (context : Context) (v : Visit) (given : Subject) (x : String) :
    Prop where
  gives : v.source.Gives context given
  kind : given.kind = .binding
  id : given.entries.get? "id" = some (.str x)
  hidden : ¬ given.Shows "derived_from"
  free : v.before.owner? x = none
  claimed : v.after = ⟨v.before.owners.put x v.source.path⟩

/-- A visit that fails: it is told in one finding about the file, with no line, field or advice, and
it leaves the owners as they were unless a binding has become one first. -/
structure Visit.Fails (context : Context) (v : Visit) : Prop where
  told : ∃ message,
    v.findings = [{ file := v.source.path, kind := .yamlSyntax, message := message }]
  owners : v.after = v.before ∨ ∃ given x, v.ClaimsThenStops context given x

/-- The owners after a mapping whose check stops. -/
theorem owners_of_checkMapping_eq_error {s : Subject} {registry after : Registry} {f : RuleFault}
    (hkeys : s.entries.keys.Nodup) (h : checkMapping s registry = (.error f, after)) :
    after = registry ∨ ∃ x, s.kind = .binding ∧ s.entries.get? "id" = some (.str x)
      ∧ ¬ s.Shows "derived_from" ∧ registry.owner? x = none
      ∧ after = ⟨registry.owners.put x s.file⟩ := by
  unfold checkMapping at h
  cases hbefore : runRules (rulesBeforeClaim s.kind) s with
  | error e =>
    rw [hbefore] at h
    exact .inl (congrArg Prod.snd h).symm
  | ok before =>
    rw [hbefore] at h
    cases hafter : runRules (rulesAfterClaim s.kind) s with
    | ok ds =>
      rw [hafter] at h
      cases h
    | error e =>
      -- The rules after the claim stop only at the tenet that a binding names.
      rw [hafter] at h
      obtain rfl : (claimId s registry).2 = after := congrArg Prod.snd h
      have hstops : ¬ (s.kind = .binding → s.Shows "derived_from") := by
        intro hshows
        obtain ⟨ds, hds, -⟩ := (rulesAfterClaim_meets registry hkeys).found hshows
        rw [hafter] at hds
        cases hds
      obtain ⟨hkind, hhidden⟩ := Classical.not_imp.mp hstops
      by_cases hid : ∃ x, s.entries.get? "id" = some (.str x)
      · obtain ⟨x, hx⟩ := hid
        cases howner : registry.owner? x with
        | none =>
          rw [claimId_of_new hx howner]
          exact .inr ⟨x, hkind, hx, hhidden, howner, rfl⟩
        | some owner =>
          rw [claimId_of_owned hx howner]
          exact .inl rfl
      · rw [claimId_of_no_id registry fun x hx => hid ⟨x, hx⟩]
        exact .inl rfl

/-- A mapping is validated by checking it against the rules. -/
theorem visit_of_gives {context : Context} {s : Source} {given : Subject}
    (h : s.Gives context given) (registry : Registry) :
    visit context registry s =
      match checkMapping given registry with
      | (.ok ds, after) =>
        ⟨s, registry, .ok (s.document?, ds.map (Diagnostic.shift s.lineOffset)), after⟩
      | (.error f, after) => ⟨s, registry, .error (.rule f), after⟩ := by
  obtain ⟨reading, hread, hcheck⟩ := h.exists_read
  unfold visit validateSource Source.document?
  rw [hread]
  dsimp only
  rw [hcheck]
  obtain ⟨result, after⟩ := checkMapping given registry
  cases result <;> rfl

/-- A document whose validation fails. -/
theorem fails_of_result_eq_error {context : Context} {registry : Registry} {s : Source}
    {f : SourceFault} (h : (visit context registry s).result = .error f) :
    (visit context registry s).Fails context := by
  constructor
  · obtain ⟨message, hmessage⟩ :
        ∃ message, f.finding s = { file := s.path, kind := .yamlSyntax, message := message } := by
      cases f <;> exact ⟨_, rfl⟩
    refine ⟨message, ?_⟩
    unfold Visit.findings
    rw [h]
    exact congrArg (fun d => [d]) hmessage
  · by_cases hgives : ∃ given, s.Gives context given
    · obtain ⟨given, hgiven⟩ := hgives
      rw [visit_of_gives hgiven] at h ⊢
      cases hcheck : checkMapping given registry with
      | mk result after =>
        rw [hcheck] at h
        cases result with
        | ok ds => cases h
        | error e =>
          rcases owners_of_checkMapping_eq_error hgiven.nodup_keys hcheck with
            hsame | ⟨x, hkind, hx, hhidden, hfree, hclaimed⟩
          · exact .inl hsame
          · exact .inr ⟨given, x, hgiven, hkind, hx, hhidden, hfree, hgiven.file ▸ hclaimed⟩
    · obtain ⟨ds, hjudge, -⟩ := judge_of_not_gives fun given hgiven => hgives ⟨given, hgiven⟩
      have hvisit := hjudge registry
      rw [judge_eq_visit] at hvisit
      exact .inl (congrArg Prod.snd hvisit)

/-! ## What a batch keeps at a path -/

/-- The value at a path is the last one of the documents there, and the old one if none of them has
any. -/
theorem get?_keepValues {α : Type} (value : Source → Option α) (kept : Entries α)
    (sources : List Source) (path : String) : (keepValues value kept sources).get? path
      = (((sourcesAt path sources).filterMap value).getLast?).or (kept.get? path) := by
  induction sources generalizing kept with
  | nil => rfl
  | cons s rest ih =>
    show (keepValues value (keepValue value kept s) rest).get? path = _
    rw [ih, get?_keepValue]
    unfold sourcesAt
    by_cases hpath : s.path = path
    · rw [if_pos hpath, List.filter_cons, if_pos (beq_iff_eq.mpr hpath), List.filterMap_cons]
      cases value s with
      | none => rfl
      | some v =>
        rw [List.getLast?_cons]
        cases ((rest.filter fun s => s.path == path).filterMap value).getLast? <;> rfl
    · rw [if_neg hpath, List.filter_cons, if_neg (mt beq_iff_eq.mp hpath)]

/-! ## Batches -/

/-- What a batch leaves is what its documents leave that are validated one by one in a stable order
by path: the findings of all visits after those that there were, and the owners after the last of
them. At each path it keeps the last document that was read there, whether or not its check has
failed, and the last content. Every document is visited, and those whose validation fails leave one
finding each. -/
structure RunsOneByOne (context : Context) (state : RunState) (sources : List Source)
    (visits : List Visit) (run : RunState × Batch) : Prop where
  order : IsStableSort sources (visits.map Visit.source)
  findings : run.1.collector = state.collector.extend (visits.flatMap Visit.findings)
  owners : run.1.registry = ownersAfter state.registry visits
  documents : ∀ path, run.2.documents.get? path
    = ((sourcesAt path sources).filterMap Source.document?).getLast?
  contents : ∀ path, run.2.contents.get? path
    = ((sourcesAt path sources).filterMap Source.content).getLast?
  read : ∀ v ∈ visits, ∀ doc ds, v.result = .ok (doc, ds) → doc = v.source.document?
  failed : ∀ v ∈ visits, ∀ f, v.result = .error f → v.Fails context

/-- A batch leaves what its documents leave that are validated one by one. -/
theorem runsOneByOne_runBatch (context : Context) (workers : Int) (state : RunState)
    (sources : List Source) : RunsOneByOne context state sources
      (visitAll context state.registry (sortSources sources))
      (runBatch context workers state sources) := by
  have hrun := (runBatch_eq context workers state sources).1
  rw [judgeAll_eq_visitAll] at hrun
  have hsort := isStableSort_sortSources sources
  have hkept : ∀ {α : Type} (value : Source → Option α) (path : String),
      (keepValues value [] (sortSources sources)).get? path
        = ((sourcesAt path sources).filterMap value).getLast? := by
    intro α value path
    rw [get?_keepValues, hsort.stable]
    exact Option.or_none
  constructor
  · rw [map_source_visitAll]
    exact hsort
  · exact congrArg RunState.collector hrun
  · exact congrArg RunState.registry hrun
  · intro path
    rw [documents_runBatch, hkept]
  · intro path
    rw [contents_runBatch, hkept]
  · intro v hv doc ds hresult
    obtain ⟨before, s, rfl⟩ := exists_of_mem_visitAll hv
    exact document?_of_visit hresult
  · intro v hv f hresult
    obtain ⟨before, s, rfl⟩ := exists_of_mem_visitAll hv
    exact fails_of_result_eq_error hresult

/-- Every batch leaves what its documents leave that are validated one by one. So a batch and then
another one, no path of which is before a path of the first, find and leave the same as one batch
with the documents of both. -/
theorem runBatch_oneByOne (context : Context) (workers : Int) :
    (∀ state sources, RunsOneByOne context state sources
      (visitAll context state.registry (sortSources sources))
      (runBatch context workers state sources))
    ∧ ∀ state first second, (∀ s ∈ first, ∀ t ∈ second, s.path ≤ t.path) →
        let one := runBatch context workers state (first ++ second)
        let two := runBatch context workers (runBatch context workers state first).1 second
        two.1.collector = one.1.collector ∧ two.1.registry = one.1.registry := by
  refine ⟨runsOneByOne_runBatch context workers, ?_⟩
  intro state first second h one two
  have hone : one.1 = _ := (runBatch_eq context workers state (first ++ second)).1
  have hfirst := (runBatch_eq context workers state first).1
  have htwo : two.1 = _ :=
    (runBatch_eq context workers (runBatch context workers state first).1 second).1
  rw [sortSources_append h, judgeAll_append] at hone
  rw [hfirst] at htwo
  rw [hone, htwo]
  simp [Collector.extend]

/-- Two tenets with one id leave the same in one batch as in two. -/
theorem runBatch_oneByOne_sharedId :
    let a := tenetSource "docs/tenets/a.md" "id: x"
    let b := tenetSource "docs/tenets/b.md" "id: x"
    (∀ s ∈ [a], ∀ t ∈ [b], s.path ≤ t.path)
      ∧ let one := runBatch ⟨"1.0.0", []⟩ 1 {} [a, b]
        let two := runBatch ⟨"1.0.0", []⟩ 1 (runBatch ⟨"1.0.0", []⟩ 1 {} [a]).1 [b]
        two.1.collector = one.1.collector ∧ two.1.registry = one.1.registry := by
  intro a b
  have horder : ∀ s ∈ [a], ∀ t ∈ [b], s.path ≤ t.path := by
    simp only [List.mem_singleton, forall_eq]
    decide
  exact ⟨horder, (runBatch_oneByOne ⟨"1.0.0", []⟩ 1).2 {} [a] [b] horder⟩

/-! ## A document that fails and owns its id -/

/-- A binding with an id, and with a power of sixteen in the place of its tenet. -/
def heldId (k : Nat) : Source where
  path := "docs/bindings/core/a.md"
  kind := DocumentKind.binding.word
  block := .text (longText k)

/-- What the binding gives to the rules. -/
theorem exists_gives_heldId {k : Nat} (hk : k ≤ 100000) (context : Context) :
    ∃ given, (heldId k).Gives context given ∧ given.kind = .binding
      ∧ given.entries.get? "id" = some (.str "x") ∧ given.entries.get? "version" = none
      ∧ given.entries.get? "derived_from"
        = some (.scalar (.int (Yaml.hexNumber ('1' :: List.replicate (5 * k) '0')))) := by
  obtain ⟨entries, hreading, hid, hversion, hderived⟩ := exists_reading_longText hk
  obtain ⟨schema, hschema⟩ : ∃ schema, SchemaTable.standard.get? .binding = some schema :=
    ⟨_, rfl⟩
  exact ⟨⟨(heldId k).path, .binding, schema, context, entries, _⟩,
    ⟨rfl, rfl, hschema, rfl, _, _, rfl, hreading, rfl, rfl⟩, rfl, hid, hversion, hderived⟩

/-- The binding fails, and claims its id. -/
theorem heldId_claims {k : Nat} (hk : k ≤ 100000) (hlong : maxDigits ≤ 6 * k) (context : Context) :
    (∃ f, (validateSource context (heldId k) {}).1 = .error f)
      ∧ (heldId k).Claims context "x" := by
  obtain ⟨given, hgiven, hkind, hid, hversion, hderived⟩ := exists_gives_heldId hk context
  have hshown : given.Shows "version" := by
    intro v hv
    rw [hversion] at hv
    cases hv
  have hstops : ¬ given.ShowsAll := fun h =>
    not_isShown_powerOfSixteen hlong (h.2 hkind _ hderived)
  have hcheck := checkMapping_stops {} (nodup_required_of_get?_standard hgiven.schema)
    hgiven.nodup_keys hstops
  refine ⟨⟨.rule TooLong.mk.fault, ?_⟩, given, hgiven, hid, hshown⟩
  show (visit context {} (heldId k)).result = _
  rw [visit_of_gives hgiven]
  cases hresult : checkMapping given {} with
  | mk result after =>
    rw [hresult] at hcheck
    obtain rfl : result = .error TooLong.mk.fault := hcheck
    rfl

/-- A batch leaves a document as the owner of the id that it alone claims. -/
theorem owner?_runBatch_singleton {context : Context} {s : Source} {x : String}
    (h : s.Claims context x) (workers : Int) :
    (runBatch context workers {} [s]).1.registry.owner? x = some s.path := by
  have hsorted : SortedByPath [s] := List.pairwise_singleton _ s
  rw [(runBatch_eq context workers {} [s]).1, sortSources_of_sortedByPath hsorted]
  refine (owner?_judgeAll hsorted rfl).mpr ⟨s, List.mem_singleton_self s, rfl, h, ?_⟩
  intro t ht _
  rw [List.mem_singleton.mp ht]

/-- A document whose validation fails changes the owners: it becomes the owner of its id. -/
theorem runBatch_heldId_changesOwners :
    (∃ f, (validateSource ⟨"1.0.0", []⟩ (heldId 720) {}).1 = .error f)
      ∧ Registry.owner? {} "x" = none
      ∧ (runBatch ⟨"1.0.0", []⟩ 1 {} [heldId 720]).1.registry.owner? "x"
        = some "docs/bindings/core/a.md" := by
  obtain ⟨hfails, hclaims⟩ := @heldId_claims 720 (by decide) (by decide) ⟨"1.0.0", []⟩
  exact ⟨hfails, rfl, owner?_runBatch_singleton hclaims 1⟩

end FrontMatter
