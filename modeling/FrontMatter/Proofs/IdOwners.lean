import FrontMatter.Proofs.Batches

/-!
# `FrontMatter.Proofs.IdOwners` — the first file by path owns an id

A batch takes its documents in the order of their paths, and the first document that claims an id
owns it. Every other document that claims it is told so. A document that declares an id claims it,
unless a whole number that is too long to be shown stops its check first.

## Contents

* `Source.entries?`, `Source.declaredId?`: the mapping of a document, and the id that it declares.
* `judge_of_stopped`, `judge_of_claimed`, `judge_of_not_claims`: what one document claims, and what
  it is told.
* `owner?_judgeAll`: the owners that a run leaves.
* `count_judgeAll`: how many owners and findings a run gives.
* `OwnedByPath`: the law about owners and findings.
* `NothingHidden`: the documents that a long number does not keep from it.
* `runBatch_ownedByPath_iff`: the batches for which the law holds.
-/

namespace FrontMatter

/-! ## Declared ids -/

/-- The entries of the mapping of a document, where its kind is known and its block is read as a
mapping. -/
def Source.entries? (s : Source) : Option (Entries Value) :=
  match DocumentKind.ofWord? s.kind, s.block with
  | some _, .text t =>
    match Reading.ofText t with
    | .ok doc =>
      match doc.content with
      | .mapping entries => some entries
      | _ => none
    | .error _ => none
  | _, _ => none

/-- The id that a document declares: the text of the key `id` of its mapping. -/
def Source.declaredId? (s : Source) : Option String :=
  s.entries?.bind fun entries => (entries.get? "id").bind Value.str?

/-- The entries of a document are those of the mapping that it gives to the rules. -/
theorem Source.Gives.entries? {context : Context} {s : Source} {given : Subject}
    (h : s.Gives context given) : s.entries? = some given.entries := by
  obtain ⟨text, doc, hblock, hread, hcontent, -⟩ := h.block
  simp only [Source.entries?, h.kind, DocumentKind.ofWord?_word, hblock, hread, hcontent]

/-- A document declares the id of the mapping that it gives to the rules. -/
theorem Source.Gives.declaredId? {context : Context} {s : Source} {given : Subject}
    (h : s.Gives context given) : s.declaredId? = (given.entries.get? "id").bind Value.str? := by
  unfold Source.declaredId?
  rw [h.entries?]
  rfl

/-- A document with entries gives a mapping to the rules. -/
theorem exists_gives_of_entries? (context : Context) {s : Source} {entries : Entries Value}
    (h : s.entries? = some entries) : ∃ given, s.Gives context given := by
  unfold Source.entries? at h
  split at h
  · next kind text hkind hblock =>
    split at h
    · next doc hread =>
      split at h
      · next es hcontent =>
        obtain ⟨schema, hschema⟩ : ∃ schema, SchemaTable.standard.get? kind = some schema := by
          cases kind <;> exact ⟨_, rfl⟩
        exact ⟨⟨s.path, kind, schema, context, es, doc.lines⟩, rfl, eq_word_of_ofWord? hkind,
          hschema, rfl, text, doc, hblock, hread, hcontent, rfl⟩
      · cases h
    · cases h
  · cases h

/-- A document that declares an id gives a mapping with the id to the rules. -/
theorem exists_id_of_declaredId? (context : Context) {s : Source} {x : String}
    (h : s.declaredId? = some x) :
    ∃ given, s.Gives context given ∧ given.entries.get? "id" = some (.str x) := by
  obtain ⟨entries, hentries, -⟩ := Option.bind_eq_some_iff.mp h
  obtain ⟨given, hgiven⟩ := exists_gives_of_entries? context hentries
  rw [hgiven.declaredId?] at h
  obtain ⟨v, hv, hstr⟩ := Option.bind_eq_some_iff.mp h
  exact ⟨given, hgiven, hv.trans (congrArg some (Value.str?_eq_some_iff.mp hstr))⟩

/-! ## What one document claims and is told -/

/-- A finding that an id has another owner. -/
def Diagnostic.isDuplicate (d : Diagnostic) : Bool :=
  d.kind == .duplicateId

/-- Findings of other kinds tell nothing about owners. -/
theorem filter_isDuplicate_eq_nil {ds : List Diagnostic} (h : ∀ d ∈ ds, d.kind ≠ .duplicateId) :
    ds.filter Diagnostic.isDuplicate = [] := by
  rw [List.filter_eq_nil_iff]
  intro d hd hdup
  exact h d hd (beq_iff_eq.mp hdup)

/-- A document of which the rules before the claim stop claims nothing. -/
theorem judge_of_stopped {context : Context} {s : Source} {given : Subject}
    (h : s.Gives context given) (hno : ¬ (given.Shows "id" ∧ given.Shows "version"))
    (registry : Registry) :
    (judge context registry s).2 = registry
      ∧ (judge context registry s).1.filter Diagnostic.isDuplicate = [] := by
  have hstop := (rulesBeforeClaim_meets registry
    (nodup_required_of_get?_standard h.schema)).stopped hno
  rw [judge_of_gives h]
  unfold checkMapping
  rw [hstop]
  exact ⟨rfl, rfl⟩

/-- A document of which they do not stop makes its claim. It is told about its claim, unless the
rules after it stop. -/
theorem judge_of_claimed {context : Context} {s : Source} {given : Subject}
    (h : s.Gives context given) (hshown : given.Shows "id" ∧ given.Shows "version")
    (registry : Registry) :
    (judge context registry s).2 = (claimId given registry).2
      ∧ ((given.kind = .binding → given.Shows "derived_from") →
        (judge context registry s).1.filter Diagnostic.isDuplicate
          = (claimId given registry).1.map (Diagnostic.shift s.lineOffset))
      ∧ (¬ (given.kind = .binding → given.Shows "derived_from") →
        (judge context registry s).1.filter Diagnostic.isDuplicate = []) := by
  obtain ⟨before, hb, hbefore⟩ := (rulesBeforeClaim_meets registry
    (nodup_required_of_get?_standard h.schema)).found hshown
  have hafter := rulesAfterClaim_meets registry h.nodup_keys
  rw [judge_of_gives h]
  unfold checkMapping
  rw [hb]
  by_cases hderived : given.kind = .binding → given.Shows "derived_from"
  · obtain ⟨after, ha, hafter⟩ := hafter.found hderived
    rw [ha]
    refine ⟨rfl, fun _ => ?_, fun hno => absurd hderived hno⟩
    -- Of the three stages only the claim gives findings about owners.
    have hshift : Diagnostic.isDuplicate ∘ Diagnostic.shift s.lineOffset
        = Diagnostic.isDuplicate := rfl
    have hnotBefore : ∀ d ∈ before, d.kind ≠ .duplicateId := by
      intro d hd hkind
      obtain ⟨-, -, hstage, -⟩ := hbefore.breaks_of_mem hd
      rw [hkind] at hstage
      rcases hstage with h | h | h <;> cases h
    have hnotAfter : ∀ d ∈ after, d.kind ≠ .duplicateId := by
      intro d hd hkind
      obtain ⟨-, -, hstage, -⟩ := hafter.breaks_of_mem hd
      rw [hkind] at hstage
      rcases hstage with h | h <;> cases h
    have hclaim : (claimId given registry).1.filter Diagnostic.isDuplicate
        = (claimId given registry).1 := by
      rw [List.filter_eq_self]
      intro d hd
      obtain ⟨-, -, hkind, -⟩ := (claimId_reports given registry).breaks_of_mem hd
      exact beq_iff_eq.mpr hkind
    show (List.map _ (before ++ (claimId given registry).1 ++ after)).filter _ = _
    rw [List.filter_map, hshift, List.filter_append, List.filter_append,
      filter_isDuplicate_eq_nil hnotBefore, filter_isDuplicate_eq_nil hnotAfter, hclaim,
      List.nil_append, List.append_nil]
  · rw [hafter.stopped hderived]
    exact ⟨rfl, fun h => absurd h hderived, fun _ => rfl⟩

/-- A document whose claim finds nothing is told nothing about it, whether or not the rules after
the claim stop. -/
theorem judge_silent_of_claimId {context : Context} {s : Source} {given : Subject}
    (h : s.Gives context given) (hshown : given.Shows "id" ∧ given.Shows "version")
    {registry : Registry} (hclaim : (claimId given registry).1 = []) :
    (judge context registry s).1.filter Diagnostic.isDuplicate = [] := by
  obtain ⟨-, htold, hsilent⟩ := judge_of_claimed h hshown registry
  by_cases hderived : given.kind = .binding → given.Shows "derived_from"
  · rw [htold hderived, hclaim, List.map_nil]
  · exact hsilent hderived

/-! ## Owners -/

/-- A document that claims an id: it declares the id, and its version can be quoted, so the rules
before the claim do not stop. -/
def Source.Claims (context : Context) (s : Source) (x : String) : Prop :=
  ∃ given, s.Gives context given ∧ given.entries.get? "id" = some (.str x) ∧ given.Shows "version"

/-- An id that is a text can be quoted. -/
theorem shows_of_get? {s : Subject} {field t : String} (h : s.entries.get? field = some (.str t)) :
    s.Shows field := by
  intro v hv
  rw [h] at hv
  cases hv
  exact isShown_str t

/-- A document claims no other id than the one it declares. -/
theorem Source.Claims.declaredId? {context : Context} {s : Source} {x : String}
    (h : s.Claims context x) : s.declaredId? = some x := by
  obtain ⟨given, hgiven, hid, -⟩ := h
  rw [hgiven.declaredId?, hid]
  rfl

/-- A document that declares no id claims none. -/
theorem Source.not_claims_of_declaredId? {context : Context} {s : Source}
    (h : s.declaredId? = none) (x : String) : ¬ s.Claims context x := by
  intro hclaims
  rw [hclaims.declaredId?] at h
  cases h

/-- The owners after the claim of an id. -/
theorem owner?_claimId {s : Subject} {y : String} (h : s.entries.get? "id" = some (.str y))
    (registry : Registry) (x : String) :
    (claimId s registry).2.owner? x
      = if y = x then some ((registry.owner? x).getD s.file) else registry.owner? x := by
  cases hy : registry.owner? y with
  | none =>
    rw [claimId_of_new h hy]
    by_cases hyx : y = x
    · subst hyx
      rw [if_pos rfl, hy]
      simp [Registry.owner?, Table.get?_put]
    · simp [Registry.owner?, Table.get?_put, hyx]
  | some owner =>
    rw [claimId_of_owned h hy]
    by_cases hyx : y = x
    · subst hyx
      rw [if_pos rfl, hy]
      rfl
    · rw [if_neg hyx]

/-- A document that claims no id changes no owner and is told nothing about owners. -/
theorem judge_of_not_claims {context : Context} {s : Source} (h : ∀ x, ¬ s.Claims context x)
    (registry : Registry) :
    (judge context registry s).2 = registry
      ∧ (judge context registry s).1.filter Diagnostic.isDuplicate = [] := by
  by_cases hgives : ∃ given, s.Gives context given
  · obtain ⟨given, hgiven⟩ := hgives
    by_cases hshown : given.Shows "id" ∧ given.Shows "version"
    · have hid : ∀ x, given.entries.get? "id" ≠ some (.str x) :=
        fun x hx => h x ⟨given, hgiven, hx, hshown.2⟩
      have hclaim := claimId_of_no_id registry hid
      have hregistry := (judge_of_claimed hgiven hshown registry).1
      rw [hclaim] at hregistry
      exact ⟨hregistry, judge_silent_of_claimId hgiven hshown (congrArg Prod.fst hclaim)⟩
    · exact judge_of_stopped hgiven hshown registry
  · obtain ⟨ds, hjudge, -, hgeneral⟩ :=
      judge_of_not_gives fun given hgiven => hgives ⟨given, hgiven⟩
    rw [hjudge]
    exact ⟨rfl, filter_isDuplicate_eq_nil fun d hd => (hgeneral d hd).2.2⟩

/-- The owners after one document: those before it, and the document itself for an id that it
claims and that had no owner. -/
theorem owner?_judge {context : Context} {registry : Registry} {s : Source} {x p : String} :
    (judge context registry s).2.owner? x = some p
      ↔ registry.owner? x = some p
        ∨ registry.owner? x = none ∧ s.Claims context x ∧ s.path = p := by
  by_cases hclaims : ∃ y, s.Claims context y
  · obtain ⟨y, hy⟩ := hclaims
    obtain ⟨given, hgiven, hid, hversion⟩ := id hy
    rw [(judge_of_claimed hgiven ⟨shows_of_get? hid, hversion⟩ registry).1, owner?_claimId hid,
      hgiven.file]
    by_cases hyx : y = x
    · subst hyx
      cases registry.owner? y <;> simp [hy]
    · have hno : ¬ s.Claims context x := by
        intro hx
        exact hyx (Option.some.inj (hy.declaredId?.symm.trans hx.declaredId?))
      simp [hyx, hno]
  · have hno : ∀ y, ¬ s.Claims context y := fun y hy => hclaims ⟨y, hy⟩
    rw [(judge_of_not_claims hno registry).1]
    simp [hno x]

/-- An id that has an owner keeps it. -/
theorem owner?_judgeAll_of_owner {context : Context} {registry : Registry}
    {sources : List Source} {x p : String} (h : registry.owner? x = some p) :
    (judgeAll context registry sources).2.owner? x = some p := by
  induction sources generalizing registry with
  | nil => exact h
  | cons s rest ih => exact ih (owner?_judge.mpr (.inl h))

/-- Documents in the order of their paths. -/
abbrev SortedByPath (sources : List Source) : Prop :=
  sources.Pairwise fun a b => a.path ≤ b.path

/-- The owner of an id after documents in the order of their paths, where it had none before: the
least path of those that claim it. -/
theorem owner?_judgeAll {context : Context} {registry : Registry} {sources : List Source}
    (hsorted : SortedByPath sources) {x p : String} (hnone : registry.owner? x = none) :
    (judgeAll context registry sources).2.owner? x = some p
      ↔ ∃ s ∈ sources, s.path = p ∧ s.Claims context x
        ∧ ∀ t ∈ sources, t.Claims context x → p ≤ t.path := by
  induction sources generalizing registry with
  | nil => simp [judgeAll, hnone]
  | cons s rest ih =>
    rw [judgeAll_cons]
    obtain ⟨hleast, hrest⟩ := List.pairwise_cons.mp hsorted
    by_cases hclaims : s.Claims context x
    · -- The first document becomes the owner and stays it, and its path is the least.
      have howner : (judge context registry s).2.owner? x = some s.path :=
        owner?_judge.mpr (.inr ⟨hnone, hclaims, rfl⟩)
      rw [owner?_judgeAll_of_owner howner]
      constructor
      · rintro ⟨⟩
        refine ⟨s, List.mem_cons_self, rfl, hclaims, ?_⟩
        intro t ht _
        rcases List.mem_cons.mp ht with rfl | ht
        · exact String.le_refl _
        · exact hleast t ht
      · rintro ⟨t, ht, rfl, -, hmin⟩
        rcases List.mem_cons.mp ht with rfl | ht
        · rfl
        · exact congrArg some
            (String.le_antisymm (hleast t ht) (hmin s List.mem_cons_self hclaims))
    · -- The id is still without an owner, so the documents after the first one decide.
      have hstill : (judge context registry s).2.owner? x = none := by
        rw [Option.eq_none_iff_forall_ne_some]
        intro q hq
        rcases owner?_judge.mp hq with hq | ⟨-, hq, -⟩
        · rw [hnone] at hq
          cases hq
        · exact hclaims hq
      rw [ih hrest hstill]
      simp [hclaims]

/-- An id that is claimed has an owner afterwards. -/
theorem exists_owner_of_claims {context : Context} {registry : Registry} {sources : List Source}
    {s : Source} (hs : s ∈ sources) {x : String} (h : s.Claims context x) :
    ∃ p, (judgeAll context registry sources).2.owner? x = some p := by
  obtain ⟨pre, post, rfl⟩ := List.append_of_mem hs
  rw [judgeAll_append, judgeAll_cons]
  cases hpre : (judgeAll context registry pre).2.owner? x with
  | some p => exact ⟨p, owner?_judgeAll_of_owner (owner?_judge.mpr (.inl hpre))⟩
  | none =>
    exact ⟨s.path, owner?_judgeAll_of_owner (owner?_judge.mpr (.inr ⟨hpre, h, rfl⟩))⟩

/-! ## Findings about owners -/

/-- The findings about a file that its id has another owner. -/
def duplicatesIn (path : String) (ds : List Diagnostic) : List Diagnostic :=
  ds.filter fun d => d.isDuplicate && d.file == path

/-- They are those of the findings in the file. -/
theorem duplicatesIn_eq (path : String) (ds : List Diagnostic) :
    duplicatesIn path ds = (findingsIn path ds).filter Diagnostic.isDuplicate := by
  unfold duplicatesIn findingsIn
  rw [List.filter_filter]

/-- What a run tells a file about the owner of its id is what the check of the file tells. -/
theorem duplicatesIn_judgeAll {context : Context} {registry : Registry} {pre post : List Source}
    {s : Source} (hpaths : ((pre ++ s :: post).map Source.path).Nodup) :
    duplicatesIn s.path (judgeAll context registry (pre ++ s :: post)).1
      = (judge context (judgeAll context registry pre).2 s).1.filter Diagnostic.isDuplicate := by
  rw [List.map_append, List.map_cons, List.nodup_append, List.nodup_cons] at hpaths
  obtain ⟨-, ⟨hpost, -⟩, hdisjoint⟩ := hpaths
  have hpre : s.path ∉ pre.map Source.path :=
    fun hmem => hdisjoint _ hmem _ List.mem_cons_self rfl
  rw [duplicatesIn_eq, findingsIn_judgeAll hpre hpost]

/-- A document that claims an id is told the owner that the run leaves, if it is another one and the
rules after the claim do not stop. -/
theorem messages_of_claims {context : Context} {pre post : List Source} {s : Source}
    (hpaths : ((pre ++ s :: post).map Source.path).Nodup) {given : Subject}
    (hgiven : s.Gives context given) {x : String}
    (hid : given.entries.get? "id" = some (.str x)) (hversion : given.Shows "version")
    {owner : String}
    (howner : (judgeAll context {} (pre ++ s :: post)).2.owner? x = some owner)
    (hderived : owner ≠ s.path → given.kind = .binding → given.Shows "derived_from") :
    (duplicatesIn s.path (judgeAll context {} (pre ++ s :: post)).1).map Diagnostic.message
      = if owner = s.path then [] else [duplicateMessage x owner] := by
  have hclaims : s.Claims context x := ⟨given, hgiven, hid, hversion⟩
  obtain ⟨-, htold, hsilent⟩ := judge_of_claimed hgiven ⟨shows_of_get? hid, hversion⟩
    (judgeAll context {} pre).2
  rw [duplicatesIn_judgeAll hpaths]
  by_cases hafter : given.kind = .binding → given.Shows "derived_from"
  · rw [htold hafter]
    rw [judgeAll_append, judgeAll_cons] at howner
    cases hpre : (judgeAll context {} pre).2.owner? x with
    | none =>
      rw [owner?_judgeAll_of_owner (owner?_judge.mpr (.inr ⟨hpre, hclaims, rfl⟩))] at howner
      rw [claimId_of_new hid hpre, if_pos (Option.some.inj howner).symm]
      rfl
    | some q =>
      rw [owner?_judgeAll_of_owner (owner?_judge.mpr (.inl hpre))] at howner
      obtain rfl := Option.some.inj howner
      rw [claimId_of_owned hid hpre, hgiven.file]
      dsimp only
      split <;> rfl
  · have hself : owner = s.path := by
      by_contra hne
      exact hafter (hderived hne)
    rw [hsilent hafter, if_pos hself]
    rfl

/-! ## The number of findings -/

/-- An id that had no owner is one more in the registry. -/
theorem size_put {registry : Registry} {x : String} (h : registry.owner? x = none) (path : String) :
    Registry.size ⟨registry.owners.put x path⟩ = registry.size + 1 := by
  have hnew : registry.owners.holds x = false := by
    rw [Table.holds_eq_isSome]
    exact Option.isSome_eq_false_iff.mpr (Option.isNone_iff_eq_none.mpr h)
  unfold Registry.size Table.put
  rw [hnew]
  simp

/-- The check of a document neither loses its claim nor the finding about it: the version can be
quoted, and where the id has an owner, it is another file and the rules after the claim do not
stop. -/
def IsCounted (context : Context) (registry : Registry) (s : Source) : Prop :=
  ∀ given x, s.Gives context given → given.entries.get? "id" = some (.str x) →
    given.Shows "version" ∧ ∀ owner, registry.owner? x = some owner →
      owner ≠ s.path ∧ (given.kind = .binding → given.Shows "derived_from")

/-- A document that declares an id gives either a new owner or a finding. -/
theorem count_judge {context : Context} {registry : Registry} {s : Source}
    (h : IsCounted context registry s) :
    ((judge context registry s).1.filter Diagnostic.isDuplicate).length
        + (judge context registry s).2.size
      = registry.size + s.declaredId?.toList.length := by
  cases hdeclared : s.declaredId? with
  | none =>
    obtain ⟨hregistry, hsilent⟩ :=
      judge_of_not_claims (Source.not_claims_of_declaredId? hdeclared) registry
    rw [hregistry, hsilent]
    simp
  | some x =>
    obtain ⟨given, hgiven, hid⟩ := exists_id_of_declaredId? context hdeclared
    obtain ⟨hversion, hother⟩ := h given x hgiven hid
    have hshown : given.Shows "id" ∧ given.Shows "version" := ⟨shows_of_get? hid, hversion⟩
    obtain ⟨hregistry, htold, -⟩ := judge_of_claimed hgiven hshown registry
    cases howner : registry.owner? x with
    | none =>
      -- A new owner and no finding.
      have hclaim := claimId_of_new hid howner
      have hnone := judge_silent_of_claimId hgiven hshown (congrArg Prod.fst hclaim)
      rw [hclaim] at hregistry
      rw [hnone, hregistry, size_put howner]
      simp
    | some owner =>
      -- No new owner, and a finding that names the one there is.
      obtain ⟨hne, hderived⟩ := hother owner howner
      rw [claimId_of_owned hid howner] at hregistry htold
      rw [hgiven.file, if_neg hne] at htold
      rw [htold hderived, hregistry]
      simp [Nat.add_comm]

/-- Documents that declare an id give owners and findings, one each. -/
theorem count_judgeAll {context : Context} {registry : Registry} {sources : List Source}
    (h : ∀ pre s post, sources = pre ++ s :: post →
      IsCounted context (judgeAll context registry pre).2 s) :
    ((judgeAll context registry sources).1.filter Diagnostic.isDuplicate).length
        + (judgeAll context registry sources).2.size
      = registry.size + (sources.filterMap Source.declaredId?).length := by
  induction sources generalizing registry with
  | nil => simp [judgeAll]
  | cons s rest ih =>
    have hcounted : IsCounted context registry s := h [] s rest rfl
    have hfirst := count_judge hcounted
    have hrest := @ih (judge context registry s).2 fun pre t post hsplit =>
      h (s :: pre) t post (congrArg (s :: ·) hsplit)
    have hdeclared : ((s :: rest).filterMap Source.declaredId?).length
        = s.declaredId?.toList.length + (rest.filterMap Source.declaredId?).length := by
      rw [List.filterMap_cons]
      cases s.declaredId? with
      | none => simp
      | some x => simp [Nat.add_comm]
    rw [judgeAll_cons, hdeclared]
    dsimp only
    rw [List.filter_append, List.length_append]
    omega

/-! ## The law -/

/-- The law about the owners of ids: the owner of an id is the least path of those that declare it,
every other file that declares it is told its owner once, no other file is told an owner, and each
declaration gives either an owner or a finding. -/
structure OwnedByPath (sources : List Source) (found : List Diagnostic) (registry : Registry) :
    Prop where
  registered : ∀ x, (∃ p, registry.owner? x = some p) ↔ ∃ s ∈ sources, s.declaredId? = some x
  least : ∀ x p, registry.owner? x = some p ↔ ∃ s ∈ sources, s.path = p
    ∧ s.declaredId? = some x ∧ ∀ t ∈ sources, t.declaredId? = some x → p ≤ t.path
  told : ∀ s ∈ sources, ∀ x owner, s.declaredId? = some x → registry.owner? x = some owner →
    (duplicatesIn s.path found).map Diagnostic.message
      = if owner = s.path then [] else [duplicateMessage x owner]
  silent : ∀ s ∈ sources, s.declaredId? = none → duplicatesIn s.path found = []
  inFiles : ∀ d ∈ found, d.isDuplicate = true → ∃ s ∈ sources, d.file = s.path
  counted : (found.filter Diagnostic.isDuplicate).length + registry.size
    = (sources.filterMap Source.declaredId?).length

/-- No number that is too long to be shown stands in the way of the law: not in the version of a
document that declares an id, and not in the tenet that a binding names whose id a file with a
lesser path declares as well. -/
def NothingHidden (context : Context) (sources : List Source) : Prop :=
  ∀ s ∈ sources, ∀ given x, s.Gives context given →
    given.entries.get? "id" = some (.str x) →
      given.Shows "version"
        ∧ ((∃ t ∈ sources, t.declaredId? = some x ∧ t.path < s.path) →
          given.kind = .binding → given.Shows "derived_from")

/-- The law does not depend on the order of the documents. -/
theorem OwnedByPath.of_perm {sources others : List Source} (hperm : sources.Perm others)
    {found : List Diagnostic} {registry : Registry} (h : OwnedByPath sources found registry) :
    OwnedByPath others found registry := by
  constructor
  · simpa only [hperm.mem_iff] using h.registered
  · simpa only [hperm.mem_iff] using h.least
  · simpa only [hperm.mem_iff] using h.told
  · simpa only [hperm.mem_iff] using h.silent
  · simpa only [hperm.mem_iff] using h.inFiles
  · rw [h.counted, (hperm.filterMap Source.declaredId?).length_eq]

section Sorted

variable {context : Context} {sources : List Source}

/-- Where nothing is hidden, the documents that claim an id are those that declare it. -/
theorem claims_iff_declaredId? (h : NothingHidden context sources) {s : Source} (hs : s ∈ sources)
    {x : String} : s.Claims context x ↔ s.declaredId? = some x := by
  constructor
  · exact fun hclaims => hclaims.declaredId?
  · intro hdeclared
    obtain ⟨given, hgiven, hid⟩ := exists_id_of_declaredId? context hdeclared
    exact ⟨given, hgiven, hid, (h s hs given x hgiven hid).1⟩

/-- Where nothing is hidden, the owner of an id is the least path of those that declare it. -/
theorem least_of_nothingHidden (hsorted : SortedByPath sources)
    (h : NothingHidden context sources) (x p : String) :
    (judgeAll context {} sources).2.owner? x = some p ↔ ∃ s ∈ sources, s.path = p
      ∧ s.declaredId? = some x ∧ ∀ t ∈ sources, t.declaredId? = some x → p ≤ t.path := by
  rw [owner?_judgeAll hsorted rfl]
  constructor
  · rintro ⟨s, hs, hp, hclaims, hmin⟩
    refine ⟨s, hs, hp, hclaims.declaredId?, fun t ht hdeclared => ?_⟩
    exact hmin t ht ((claims_iff_declaredId? h ht).mpr hdeclared)
  · rintro ⟨s, hs, hp, hdeclared, hmin⟩
    refine ⟨s, hs, hp, (claims_iff_declaredId? h hs).mpr hdeclared, fun t ht hclaims => ?_⟩
    exact hmin t ht hclaims.declaredId?

/-- Where nothing is hidden, a run counts every document. -/
theorem isCounted_of_nothingHidden {pre post : List Source} {s : Source}
    (hsorted : SortedByPath (pre ++ s :: post))
    (hpaths : ((pre ++ s :: post).map Source.path).Nodup)
    (h : NothingHidden context (pre ++ s :: post)) :
    IsCounted context (judgeAll context {} pre).2 s := by
  have hs : s ∈ pre ++ s :: post := List.mem_append_right _ List.mem_cons_self
  intro given x hgiven hid
  obtain ⟨hversion, hderived⟩ := h s hs given x hgiven hid
  refine ⟨hversion, ?_⟩
  intro owner howner
  -- The owner so far is a document before this one, so its path is less.
  obtain ⟨hpre, -, hle⟩ := List.pairwise_append.mp hsorted
  obtain ⟨t, ht, rfl, hclaims, -⟩ := (owner?_judgeAll hpre rfl).mp howner
  rw [List.map_append, List.nodup_append] at hpaths
  have hne : t.path ≠ s.path :=
    hpaths.2.2 _ (List.mem_map_of_mem ht) _ (List.mem_map_of_mem List.mem_cons_self)
  have hlt : t.path < s.path := by
    by_contra hno
    exact hne (String.le_antisymm (hle t ht s List.mem_cons_self) hno)
  exact ⟨hne, hderived ⟨t, List.mem_append_left _ ht, hclaims.declaredId?, hlt⟩⟩

/-- Where nothing is hidden, a run in the order of the paths follows the law. -/
theorem ownedByPath_of_nothingHidden (hsorted : SortedByPath sources)
    (hpaths : (sources.map Source.path).Nodup) (h : NothingHidden context sources) :
    OwnedByPath sources (judgeAll context {} sources).1 (judgeAll context {} sources).2 where
  registered x := by
    constructor
    · rintro ⟨p, hp⟩
      obtain ⟨s, hs, -, hdeclared, -⟩ := (least_of_nothingHidden hsorted h x p).mp hp
      exact ⟨s, hs, hdeclared⟩
    · rintro ⟨s, hs, hdeclared⟩
      exact exists_owner_of_claims hs ((claims_iff_declaredId? h hs).mpr hdeclared)
  least := least_of_nothingHidden hsorted h
  told := by
    intro s hs x owner hdeclared howner
    obtain ⟨given, hgiven, hid⟩ := exists_id_of_declaredId? context hdeclared
    obtain ⟨hversion, hderived⟩ := h s hs given x hgiven hid
    obtain ⟨t, ht, rfl, hother, hmin⟩ := (least_of_nothingHidden hsorted h x owner).mp howner
    obtain ⟨pre, post, rfl⟩ := List.append_of_mem hs
    refine messages_of_claims hpaths hgiven hid hversion howner fun hne =>
      hderived ⟨t, ht, hother, ?_⟩
    by_contra hno
    exact hne (String.le_antisymm (hmin s hs hdeclared) hno)
  silent := by
    intro s hs hdeclared
    obtain ⟨pre, post, rfl⟩ := List.append_of_mem hs
    rw [duplicatesIn_judgeAll hpaths]
    exact (judge_of_not_claims (Source.not_claims_of_declaredId? hdeclared) _).2
  inFiles := by
    intro d hd _
    obtain ⟨s, hs, registry, hjudged⟩ := exists_of_mem_judgeAll hd
    exact ⟨s, hs, file_of_mem_judge hjudged⟩
  counted := by
    have hcount := @count_judgeAll context {} sources fun pre s post hsplit => by
      subst hsplit
      exact isCounted_of_nothingHidden hsorted hpaths h
    rw [hcount]
    exact Nat.zero_add _

/-- A run in the order of the paths that follows the law has nothing hidden. -/
theorem nothingHidden_of_ownedByPath (hsorted : SortedByPath sources)
    (hpaths : (sources.map Source.path).Nodup)
    (h : OwnedByPath sources (judgeAll context {} sources).1 (judgeAll context {} sources).2) :
    NothingHidden context sources := by
  intro s hs given x hgiven hid
  have hdeclared : s.declaredId? = some x := by
    rw [hgiven.declaredId?, hid]
    rfl
  obtain ⟨owner, howner⟩ := (h.registered x).mpr ⟨s, hs, hdeclared⟩
  -- A file that is told nothing owns its id.
  have hself : duplicatesIn s.path (judgeAll context {} sources).1 = [] → owner = s.path := by
    intro hnone
    by_contra hne
    have htold := h.told s hs x owner hdeclared howner
    rw [hnone, if_neg hne] at htold
    cases htold
  obtain ⟨pre, post, hsplit⟩ := List.append_of_mem hs
  rw [hsplit, duplicatesIn_judgeAll (hsplit ▸ hpaths)] at hself
  -- A file whose version is hidden claims nothing, but it would have to own its id.
  have hversion : given.Shows "version" := by
    by_contra hno
    have hclaims : ∀ y, ¬ s.Claims context y := by
      rintro y ⟨other, hother, -, hshows⟩
      exact hno (hgiven.unique hother ▸ hshows)
    have hsame := hself (judge_of_not_claims hclaims _).2
    obtain ⟨t, ht, htpath, htclaims, -⟩ := (owner?_judgeAll hsorted rfl).mp howner
    have hts : t = s := List.inj_on_of_nodup_map hpaths ht hs (htpath.trans hsame)
    exact hclaims x (hts ▸ htclaims)
  refine ⟨hversion, ?_⟩
  rintro ⟨t, ht, htdeclared, hlt⟩
  by_contra hno
  -- With a hidden tenet the file is told nothing, so it would own what a lesser path declares.
  have hsame := hself
    ((judge_of_claimed hgiven ⟨shows_of_get? hid, hversion⟩ _).2.2 hno)
  obtain ⟨-, -, -, -, hmin⟩ := (h.least x owner).mp howner
  exact hmin t ht htdeclared (hsame ▸ hlt)

end Sorted

/-- Whether a document may stand before another one. -/
abbrev mayPrecede (a b : Source) : Bool :=
  !(b.path < a.path)

/-- A document may stand before another one exactly if its path is not the greater one. -/
theorem mayPrecede_iff {a b : Source} : mayPrecede a b = true ↔ a.path ≤ b.path := by
  rw [mayPrecede, Bool.not_eq_true', decide_eq_false_iff_not]
  exact Iff.rfl

/-- The order of documents is transitive. -/
theorem mayPrecede_trans (a b c : Source) (hab : mayPrecede a b = true)
    (hbc : mayPrecede b c = true) : mayPrecede a c = true :=
  mayPrecede_iff.mpr (String.le_trans (mayPrecede_iff.mp hab) (mayPrecede_iff.mp hbc))

/-- Of two documents one may stand before the other. -/
theorem mayPrecede_total (a b : Source) : (mayPrecede a b || mayPrecede b a) = true := by
  rw [Bool.or_eq_true, mayPrecede_iff, mayPrecede_iff]
  exact String.le_total a.path b.path

/-- Sorted documents are in the order of their paths. -/
theorem sortedByPath_sortSources (sources : List Source) : SortedByPath (sortSources sources) := by
  have hpairwise : (sortSources sources).Pairwise fun a b => mayPrecede a b = true :=
    List.pairwise_mergeSort mayPrecede_trans mayPrecede_total sources
  exact hpairwise.imp mayPrecede_iff.mp

/-- From no owners, a batch of documents with distinct paths follows the law about owners if and
only if no number that is too long to be shown stands in its way. -/
theorem runBatch_ownedByPath_iff {sources : List Source}
    (hpaths : (sources.map Source.path).Nodup) (context : Context) (workers : Int)
    (collector : Collector) :
    let run := (runBatch context workers { collector } sources).1
    ∃ found, run.collector = collector.extend found
      ∧ (OwnedByPath sources found run.registry ↔ NothingHidden context sources) := by
  intro run
  have hperm := sortSources_perm sources
  have hsorted := sortedByPath_sortSources sources
  have hdistinct : ((sortSources sources).map Source.path).Nodup :=
    (hperm.map Source.path).nodup_iff.mpr hpaths
  obtain ⟨hstate, -⟩ := runBatch_eq context workers { collector } sources
  refine ⟨(judgeAll context {} (sortSources sources)).1, congrArg RunState.collector hstate, ?_⟩
  have hregistry : run.registry = (judgeAll context {} (sortSources sources)).2 :=
    congrArg RunState.registry hstate
  have hhidden : NothingHidden context (sortSources sources) ↔ NothingHidden context sources := by
    unfold NothingHidden
    simp only [hperm.mem_iff]
  rw [hregistry, ← hhidden]
  constructor
  · intro h
    exact nothingHidden_of_ownedByPath hsorted hdistinct (h.of_perm hperm.symm)
  · intro h
    exact (ownedByPath_of_nothingHidden hsorted hdistinct h).of_perm hperm

/-- A tenet with a given path and block. -/
def tenetSource (path block : String) : Source where
  path := path
  kind := "tenet"
  block := .text block

/-- Two tenets that declare one id. -/
def sharedId : List Source :=
  [tenetSource "docs/tenets/a.md" "id: x", tenetSource "docs/tenets/b.md" "id: x"]

/-- Two tenets that declare one id follow the law. -/
theorem runBatch_ownedByPath_sharedId :
    let run := (runBatch ⟨"1.0.0", []⟩ 1 {} sharedId).1
    OwnedByPath sharedId run.collector.diagnostics run.registry := by
  intro run
  obtain ⟨found, hfound, hlaw⟩ :=
    @runBatch_ownedByPath_iff sharedId (by decide) ⟨"1.0.0", []⟩ 1 {}
  have hsame : run.collector.diagnostics = found := congrArg Collector.diagnostics hfound
  rw [hsame]
  refine hlaw.mpr ?_
  -- Neither tenet has a version that could be hidden, and neither is a binding.
  have hplain : ∀ s ∈ sharedId, s.kind = "tenet"
      ∧ (s.entries?.bind fun entries => (entries.get? "version").map fun _ => ()) = none := by
    decide +kernel
  intro s hs given x hgiven hid
  obtain ⟨hkind, hversion⟩ := hplain s hs
  constructor
  · intro v hv
    rw [hgiven.entries?, Option.bind_some, hv] at hversion
    cases hversion
  · rintro - hbinding
    rw [hgiven.kind, hbinding] at hkind
    exact absurd hkind (by decide)

end FrontMatter
