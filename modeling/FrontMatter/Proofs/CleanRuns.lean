import FrontMatter.Proofs.IdOwners

/-!
# `FrontMatter.Proofs.CleanRuns` — a run finds nothing where every document follows the rules

The broken rules of a mapping are told by `Breaks`. Here the same rules are told as what a mapping
has to be. A run from no owners finds nothing exactly when every document has a mapping that follows
them, and no two documents declare the same id.

## Contents

* `Subject.Follows`: the mappings that follow the rules about a document by itself.
* `follows_iff`: they are those that break no rule but the one about owners.
* `Source.Passes`: the documents with such a mapping.
* `judge_of_passes`, `passes_of_judge_eq_nil`: what is found about one of them.
* `duplicatesIn_eq_nil_iff_owner`: a document that passes is told nothing where it owns its id.
* `judgeAll_eq_nil_iff`: the runs that find nothing.
-/

namespace FrontMatter

/-! ## Mappings that follow the rules -/

/-- A mapping that follows the rules about a document by itself: it has the required keys and no
others than the allowed ones, and the values of the fields have their forms. The version is the
expected one, and a binding names a known tenet. -/
structure Subject.Follows (s : Subject) : Prop where
  required : ∀ k ∈ s.schema.required, k ∈ s.entries.keys
  allowed : ∀ k ∈ s.entries.keys, k ∈ s.schema.allowed
  id : ∀ v, s.entries.get? "id" = some v → IsSlug v
  lastModified : ∀ v, s.entries.get? "last_modified" = some v → IsDay v
  version : ∀ v, s.entries.get? "version" = some v →
    v = .str s.context.expectedVersion ∧ IsVersion v
  derivedFrom : s.kind = .binding → ∀ v, s.entries.get? "derived_from" = some v →
    IsSlug v ∧ IsKnownTenet s.context v
  enforcedBy : s.kind = .binding → ∀ v, s.entries.get? "enforced_by" = some v → IsFilledText v

/-- A mapping follows the rules exactly when it breaks none but the one about owners. -/
theorem follows_iff {s : Subject} (registry : Registry) :
    s.Follows ↔ ∀ kind field, Breaks s registry kind field → kind = .duplicateId := by
  constructor
  · intro h kind field hbreaks
    cases hbreaks with
    | missing hrequired habsent => exact absurd (h.required _ hrequired) habsent
    | idForm hv hform => exact absurd (h.id _ hv) hform
    | dateForm hv hform => exact absurd (h.lastModified _ hv) hform
    | versionForm hv hform => exact absurd (h.version _ hv).2 hform
    | otherVersion hv hform hother =>
      exact absurd (Scalar.str.inj (Value.scalar.inj (h.version _ hv).1)) hother
    | derivedForm hkind hv hform => exact absurd (h.derivedFrom hkind _ hv).1 hform
    | enforcedForm hkind hv hform => exact absurd (h.enforcedBy hkind _ hv) hform
    | ownedId hv howner hother => rfl
    | noTenet hkind hv hnone => exact absurd (h.derivedFrom hkind _ hv).2 hnone
    | unknown hthere hrequired hoptional =>
      rcases List.mem_append.mp (h.allowed _ hthere) with hk | hk
      · exact absurd hk hrequired
      · exact absurd hk hoptional
  · intro h
    -- A rule that is not followed is one that is broken, and of another kind.
    have hnone : ∀ {kind field}, kind ≠ .duplicateId → ¬ Breaks s registry kind field :=
      fun hkind hbreaks => hkind (h _ _ hbreaks)
    constructor
    · intro k hk
      by_contra hno
      exact hnone (by decide) (.missing hk hno)
    · intro k hk
      by_contra hno
      obtain ⟨hrequired, hoptional⟩ := not_or.mp fun hor => hno (List.mem_append.mpr hor)
      exact hnone (by decide) (.unknown hk hrequired hoptional)
    · intro v hv
      by_contra hno
      exact hnone (by decide) (.idForm hv hno)
    · intro v hv
      by_contra hno
      exact hnone (by decide) (.dateForm hv hno)
    · intro v hv
      have hform : IsVersion v := by
        by_contra hno
        exact hnone (by decide) (.versionForm hv hno)
      obtain ⟨t, rfl, ht⟩ := hform
      refine ⟨?_, t, rfl, ht⟩
      by_contra hno
      exact hnone (by decide) (.otherVersion hv ht fun hsame => hno (congrArg Value.str hsame))
    · intro hkind v hv
      constructor
      · by_contra hno
        exact hnone (by decide) (.derivedForm hkind hv hno)
      · by_contra hno
        exact hnone (by decide) (.noTenet hkind hv hno)
    · intro hkind v hv
      by_contra hno
      exact hnone (by decide) (.enforcedForm hkind hv hno)

/-- The values of a mapping that follows the rules can be quoted: those that messages quote are
texts. -/
theorem Subject.Follows.showsAll {s : Subject} (h : s.Follows) : s.ShowsAll := by
  refine ⟨⟨?_, ?_⟩, ?_⟩
  · intro v hv
    obtain ⟨t, rfl, -⟩ := h.id v hv
    exact isShown_str t
  · intro v hv
    obtain ⟨rfl, -⟩ := h.version v hv
    exact isShown_str _
  · intro hkind v hv
    obtain ⟨⟨t, rfl, -⟩, -⟩ := h.derivedFrom hkind v hv
    exact isShown_str t

/-! ## One document -/

/-- A document with a mapping that follows the rules. -/
def Source.Passes (context : Context) (s : Source) : Prop :=
  ∃ given, s.Gives context given ∧ given.Follows

/-- All that is found about a document that passes is that its id has another owner. -/
theorem judge_of_passes {context : Context} {s : Source} (h : s.Passes context)
    (registry : Registry) : ∀ d ∈ (judge context registry s).1, d.kind = .duplicateId := by
  obtain ⟨given, hgiven, hfollows⟩ := h
  obtain ⟨ds, hfound, hreports⟩ := checkMapping_reports registry
    (nodup_required_of_get?_standard hgiven.schema) hgiven.nodup_keys hfollows.showsAll
  obtain ⟨after, hcheck⟩ : ∃ after, checkMapping given registry = (.ok ds, after) :=
    ⟨_, Prod.ext hfound rfl⟩
  rw [judge_of_gives hgiven, hcheck]
  intro d hd
  obtain ⟨e, he, rfl⟩ := List.mem_map.mp hd
  obtain ⟨field, -, hbreaks⟩ := hreports.breaks_of_mem he
  exact (follows_iff registry).mp hfollows _ _ hbreaks

/-- A document about which nothing is found passes. -/
theorem passes_of_judge_eq_nil {context : Context} {registry : Registry} {s : Source}
    (h : (judge context registry s).1 = []) : s.Passes context := by
  by_cases hgives : ∃ given, s.Gives context given
  · obtain ⟨given, hgiven⟩ := hgives
    refine ⟨given, hgiven, (follows_iff registry).mpr ?_⟩
    rw [judge_of_gives hgiven] at h
    cases hcheck : checkMapping given registry with
    | mk result after =>
      rw [hcheck] at h
      cases result with
      | error f => cases h
      | ok ds =>
        -- The findings are the broken rules, and there are no findings.
        obtain rfl : ds = [] := List.map_eq_nil_iff.mp h
        have hreports : Reports given (Breaks given registry) [] :=
          checkMapping_reports_of_ok (congrArg Prod.fst hcheck)
            (nodup_required_of_get?_standard hgiven.schema) hgiven.nodup_keys
        intro kind field hbreaks
        obtain ⟨d, hd, -⟩ := (hreports.complete kind field).mpr hbreaks
        cases hd
  · obtain ⟨ds, hjudge, hne, -⟩ :=
      judge_of_not_gives fun given hgiven => hgives ⟨given, hgiven⟩
    rw [hjudge] at h
    exact absurd h hne

/-! ## Several documents -/

/-- No number that is too long to be shown stands in documents that pass. -/
theorem nothingHidden_of_passes {context : Context} {sources : List Source}
    (h : ∀ s ∈ sources, s.Passes context) : NothingHidden context sources := by
  intro s hs given x hgiven _
  obtain ⟨other, hother, hfollows⟩ := h s hs
  obtain rfl := hgiven.unique hother
  exact ⟨hfollows.showsAll.1.2, fun _ => hfollows.showsAll.2⟩

/-- Nothing is found about documents exactly if nothing is found about each of them in its place. -/
theorem judgeAll_findings_eq_nil_iff {context : Context} {registry : Registry}
    {sources : List Source} : (judgeAll context registry sources).1 = [] ↔
      ∀ pre s post, sources = pre ++ s :: post →
        (judge context (judgeAll context registry pre).2 s).1 = [] := by
  constructor
  · rintro h pre s post rfl
    rw [judgeAll_append, judgeAll_cons] at h
    exact (List.append_eq_nil_iff.mp (List.append_eq_nil_iff.mp h).2).1
  · intro h
    induction sources generalizing registry with
    | nil => rfl
    | cons s rest ih =>
      rw [judgeAll_cons]
      refine List.append_eq_nil_iff.mpr ⟨h [] s rest rfl, ih fun pre t post hsplit => ?_⟩
      exact h (s :: pre) t post (congrArg (s :: ·) hsplit)

/-- Where the values of things are distinct, a value tells its thing. -/
theorem eq_of_nodup_filterMap {α β : Type} {f : α → Option β} {l : List α}
    (h : (l.filterMap f).Nodup) {a b : α} (ha : a ∈ l) (hb : b ∈ l) {x : β} (hax : f a = some x)
    (hbx : f b = some x) : a = b := by
  have hapart : l.Pairwise fun a b => ∀ x, f a = some x → f b ≠ some x := by
    refine (List.pairwise_filterMap.mp h).imp fun hne x hx hy => ?_
    exact hne x hx x hy rfl
  have hsymm : Std.Symm fun a b => ∀ x, f a = some x → f b ≠ some x :=
    ⟨fun _ _ hne x hx hy => hne x hy hx⟩
  by_contra hne
  exact hapart.forall ha hb hne x hax hbx

/-- Where all documents pass, one that declares an id is told of no other owner exactly when it is
the owner of the id. -/
theorem duplicatesIn_eq_nil_iff_owner {context : Context} {sources : List Source}
    (hsorted : SortedByPath sources) (hpaths : (sources.map Source.path).Nodup)
    (hpasses : ∀ s ∈ sources, s.Passes context) {s : Source} (hs : s ∈ sources) {x : String}
    (hdeclared : s.declaredId? = some x) :
    duplicatesIn s.path (judgeAll context {} sources).1 = []
      ↔ (judgeAll context {} sources).2.owner? x = some s.path := by
  have hlaw := ownedByPath_of_nothingHidden hsorted hpaths (nothingHidden_of_passes hpasses)
  obtain ⟨owner, howner⟩ := (hlaw.registered x).mpr ⟨s, hs, hdeclared⟩
  have htold := hlaw.told s hs x owner hdeclared howner
  rw [howner, Option.some.injEq]
  constructor
  · intro hnone
    by_contra hne
    rw [hnone, if_neg hne] at htold
    cases htold
  · intro hsame
    rw [if_pos hsame] at htold
    exact List.map_eq_nil_iff.mp htold

/-- A run over documents in the order of their paths finds nothing exactly when every document
passes and no two of them declare the same id. -/
theorem judgeAll_eq_nil_iff {context : Context} {sources : List Source}
    (hsorted : SortedByPath sources) (hpaths : (sources.map Source.path).Nodup) :
    (judgeAll context {} sources).1 = []
      ↔ (∀ s ∈ sources, s.Passes context) ∧ (sources.filterMap Source.declaredId?).Nodup := by
  constructor
  · intro h
    have hpasses : ∀ s ∈ sources, s.Passes context := by
      intro s hs
      obtain ⟨pre, post, hsplit⟩ := List.append_of_mem hs
      exact passes_of_judge_eq_nil (judgeAll_findings_eq_nil_iff.mp h pre s post hsplit)
    have hself := @duplicatesIn_eq_nil_iff_owner context sources hsorted hpaths hpasses
    refine ⟨hpasses, List.pairwise_filterMap.mpr ?_⟩
    -- Two documents with one id would both be its owner, so they would have one path.
    refine List.Pairwise.imp_of_mem ?_ (List.pairwise_map.mp hpaths)
    rintro s t hs ht hne x hx y hy rfl
    have howns := (hself hs hx).mp (by rw [h]; rfl)
    have hother := (hself ht hy).mp (by rw [h]; rfl)
    exact hne (Option.some.inj (howns.symm.trans hother))
  · rintro ⟨hpasses, hids⟩
    have hlaw := ownedByPath_of_nothingHidden hsorted hpaths (nothingHidden_of_passes hpasses)
    rw [List.eq_nil_iff_forall_not_mem]
    intro d hd
    obtain ⟨s, hs, registry, hjudged⟩ := exists_of_mem_judgeAll hd
    -- All that could be found is that the id of a document has another owner.
    have hmem : d ∈ duplicatesIn s.path (judgeAll context {} sources).1 := by
      refine List.mem_filter.mpr ⟨hd, ?_⟩
      rw [Bool.and_eq_true]
      exact ⟨beq_iff_eq.mpr (judge_of_passes (hpasses s hs) registry d hjudged),
        beq_iff_eq.mpr (file_of_mem_judge hjudged)⟩
    cases hdeclared : s.declaredId? with
    | none =>
      rw [hlaw.silent s hs hdeclared] at hmem
      cases hmem
    | some x =>
      obtain ⟨owner, howner⟩ := (hlaw.registered x).mpr ⟨s, hs, hdeclared⟩
      obtain ⟨t, ht, rfl, hother, -⟩ := (hlaw.least x owner).mp howner
      obtain rfl := eq_of_nodup_filterMap hids ht hs hother hdeclared
      rw [(duplicatesIn_eq_nil_iff_owner hsorted hpaths hpasses ht hdeclared).mpr howner] at hmem
      cases hmem

end FrontMatter
