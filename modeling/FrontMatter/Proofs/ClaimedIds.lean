import FrontMatter.Proofs.Batches

/-!
# `FrontMatter.Proofs.ClaimedIds` — what a check may change

The check of one document changes nothing but the owners of ids, and of these it replaces and
removes none: it adds the file of the document as the owner of the id of its mapping, or nothing. A
document that is no mapping, or that could not be read, adds nothing, and neither does one of an
unknown kind. A mapping with a new id adds it, unless a version that is too long to be shown stops
the check before the id is claimed.

## Contents

* `IsToClaim`: the id that a check is to claim.
* `checkMapping_registry`: when the rules get to the claim.
* `checkDocument_of_unknown`, `checkDocument_of_errors`, `checkDocument_of_no_mapping`: documents
  without a claim.
* `checkDocument_registry_of_isToClaim`, `checkDocument_registry_of_none`: the owners after a check.
* `ClaimsWhatIsNew`, `ShowsVersion`, `CheckEffects`: the law about owners, and when it holds.
* `checkDocument_effects`: the effects of every check.
-/

namespace FrontMatter

/-! ## Rules that get to the claim -/

/-- The owners after the check of a mapping are those after its claim, if the rules get there. The
rules after the claim do not change them, whether they stop or not. -/
theorem checkMapping_registry (s : Subject) (registry : Registry) :
    (s.Shows "id" ∧ s.Shows "version" →
        (checkMapping s registry).2 = (claimId s registry).2)
      ∧ (¬ (s.Shows "id" ∧ s.Shows "version") → (checkMapping s registry).2 = registry) := by
  rw [← isOk_rulesBeforeClaim_iff]
  unfold checkMapping
  constructor
  · rintro ⟨before, hbefore⟩
    rw [hbefore]
    dsimp only
    split <;> rfl
  · intro hstop
    cases hbefore : runRules (rulesBeforeClaim s.kind) s with
    | error e => rfl
    | ok before => exact absurd ⟨before, hbefore⟩ hstop

/-! ## Documents without a claim -/

section

variable {schemas : SchemaTable} {kindName : String} {kind : DocumentKind} {schema : Schema}

/-- A kind that is none stops the check. -/
theorem checkDocument_of_unknown (h : DocumentKind.ofWord? kindName = none) (context : Context)
    (file : String) (doc : Document) (registry : Registry) :
    checkDocument schemas context kindName file doc registry
      = (.error (.unknownKind kindName), registry) := by
  simp only [checkDocument, SchemaTable.find, kindOfName, h, bind, Except.bind]

/-- A kind without a schema stops the check. -/
theorem checkDocument_of_no_schema (h : DocumentKind.ofWord? kindName = some kind)
    (hschema : schemas.get? kind = none) (context : Context) (file : String) (doc : Document)
    (registry : Registry) :
    checkDocument schemas context kindName file doc registry
      = (.error (.noSchema kind), registry) := by
  simp only [checkDocument, SchemaTable.find, kindOfName, h, hschema, bind, Except.bind, throw,
    throwThe, MonadExceptOf.throw]

/-- With a schema the document itself is checked. -/
theorem checkDocument_of_schema (h : DocumentKind.ofWord? kindName = some kind)
    (hschema : schemas.get? kind = some schema) (context : Context) (file : String)
    (doc : Document) (registry : Registry) :
    checkDocument schemas context kindName file doc registry
      = checkKnown context kind schema file doc registry := by
  simp only [checkDocument, SchemaTable.find, kindOfName, h, hschema, bind, Except.bind, pure,
    Except.pure]

/-- A document that could not be read has its errors as findings. -/
theorem checkDocument_of_errors (h : DocumentKind.ofWord? kindName = some kind)
    (hschema : schemas.get? kind = some schema) (context : Context) (file : String)
    {doc : Document} (herrors : doc.errors ≠ []) (registry : Registry) :
    checkDocument schemas context kindName file doc registry
      = (.ok (doc.errors.map (readingFinding file)), registry) := by
  rw [checkDocument_of_schema h hschema]
  unfold checkKnown
  rw [if_pos (by simpa using herrors)]

/-- A document that is no mapping has one finding. -/
theorem checkDocument_of_no_mapping (h : DocumentKind.ofWord? kindName = some kind)
    (hschema : schemas.get? kind = some schema) (context : Context) (file : String)
    {doc : Document} (hread : doc.errors = []) (hno : ∀ entries, doc.content ≠ .mapping entries)
    (registry : Registry) :
    ∃ d, checkDocument schemas context kindName file doc registry = (.ok [d], registry) := by
  rw [checkDocument_of_schema h hschema]
  unfold checkKnown
  rw [hread, if_neg (by simp)]
  cases hcontent : doc.content with
  | absent => exact ⟨_, rfl⟩
  | mapping entries => exact absurd hcontent (hno entries)
  | sequence items => exact ⟨_, rfl⟩
  | scalar s => exact ⟨_, rfl⟩

end

/-! ## The owners after a check -/

/-- An id that the check of a document is to claim: the document is a mapping that was read without
errors, of a kind with a schema, and the id is a text that has no owner yet. -/
structure IsToClaim (schemas : SchemaTable) (kindName : String) (doc : Document)
    (registry : Registry) (id : String) : Prop where
  known : ∃ kind schema, DocumentKind.ofWord? kindName = some kind
    ∧ schemas.get? kind = some schema
  read : doc.errors = []
  declared : ∃ entries, doc.content = .mapping entries ∧ entries.get? "id" = some (.str id)
  new : registry.owner? id = none

/-- A document whose version, if its content is a mapping with one, a message can quote. -/
def ShowsVersion (doc : Document) : Prop :=
  ∀ entries v, doc.content = .mapping entries → entries.get? "version" = some v → v.IsShown

/-- The registry with one more owner. -/
def Registry.adding (r : Registry) (id file : String) : Registry :=
  ⟨r.owners ++ [(id, file)]⟩

/-- A new owner is added after the old ones. -/
theorem put_eq_adding {registry : Registry} {id : String} (h : registry.owner? id = none)
    (file : String) : Registry.mk (registry.owners.put id file) = registry.adding id file := by
  have hnew : ¬ registry.owners.holds id = true := by
    rw [Table.holds_eq_isSome]
    unfold Registry.owner? at h
    rw [h]
    decide
  unfold Table.put
  rw [if_neg hnew]
  rfl

/-- An added owner changes none that there was. -/
theorem owner?_adding {registry : Registry} {id owner : String}
    (h : registry.owner? id = some owner) (new file : String) :
    (registry.adding new file).owner? id = some owner := by
  unfold Registry.owner? Table.get? at h ⊢
  obtain ⟨e, he, rfl⟩ := Option.map_eq_some_iff.mp h
  simp [Registry.adding, List.find?_append, he]

section

variable {schemas : SchemaTable} {kindName : String} {doc : Document} {registry : Registry}

/-- An id that is to be claimed has the file of the document as its owner after the check, if the
version can be shown. Otherwise the check stops before the claim. -/
theorem checkDocument_registry_of_isToClaim {id : String}
    (h : IsToClaim schemas kindName doc registry id) (context : Context) (file : String) :
    (ShowsVersion doc →
        (checkDocument schemas context kindName file doc registry).2 = registry.adding id file)
      ∧ (¬ ShowsVersion doc →
        (checkDocument schemas context kindName file doc registry).2 = registry) := by
  obtain ⟨kind, schema, hkind, hschema⟩ := h.known
  obtain ⟨entries, hcontent, hid⟩ := h.declared
  obtain rfl : kindName = kind.word := eq_word_of_ofWord? hkind
  rw [checkDocument_eq_checkMapping hschema context file h.read hcontent registry]
  -- The id is a text, so it can be shown, and only the version counts.
  have hshows : (⟨file, kind, schema, context, entries, doc.lines⟩ : Subject).Shows "id" := by
    intro v hv
    obtain rfl : Value.str id = v := Option.some.inj (hid.symm.trans hv)
    exact isShown_str id
  have hversion : (⟨file, kind, schema, context, entries, doc.lines⟩ : Subject).Shows "version"
      ↔ ShowsVersion doc := by
    constructor
    · rintro hs es v hes hv
      obtain rfl : entries = es := Content.mapping.inj (hcontent.symm.trans hes)
      exact hs v hv
    · exact fun hs v hv => hs entries v hcontent hv
  obtain ⟨hclaims, hstops⟩ := checkMapping_registry
    ⟨file, kind, schema, context, entries, doc.lines⟩ registry
  constructor
  · intro hshown
    rw [hclaims ⟨hshows, hversion.mpr hshown⟩, claimId_of_new hid h.new]
    exact put_eq_adding h.new file
  · intro hhidden
    exact hstops fun hs => hhidden (hversion.mp hs.2)

/-- A claim of what is no text, or has an owner, changes nothing. -/
theorem claimId_registry_of_no_new {s : Subject}
    (h : ∀ x, s.entries.get? "id" = some (.str x) → registry.owner? x ≠ none) :
    (claimId s registry).2 = registry := by
  by_cases hid : ∃ x, s.entries.get? "id" = some (.str x)
  · obtain ⟨x, hx⟩ := hid
    obtain ⟨owner, howner⟩ := Option.ne_none_iff_exists'.mp (h x hx)
    rw [claimId_of_owned hx howner]
  · rw [claimId_of_no_id registry fun x hx => hid ⟨x, hx⟩]

/-- Where no id is to be claimed, a check changes nothing. -/
theorem checkDocument_registry_of_none (h : ∀ id, ¬ IsToClaim schemas kindName doc registry id)
    (context : Context) (file : String) :
    (checkDocument schemas context kindName file doc registry).2 = registry := by
  cases hkind : DocumentKind.ofWord? kindName with
  | none => rw [checkDocument_of_unknown hkind]
  | some kind =>
    cases hschema : schemas.get? kind with
    | none => rw [checkDocument_of_no_schema hkind hschema]
    | some schema =>
      by_cases hread : doc.errors = []
      · by_cases hmapping : ∃ entries, doc.content = .mapping entries
        · obtain ⟨entries, hcontent⟩ := hmapping
          obtain rfl : kindName = kind.word := eq_word_of_ofWord? hkind
          rw [checkDocument_eq_checkMapping hschema context file hread hcontent registry]
          set s : Subject := ⟨file, kind, schema, context, entries, doc.lines⟩
          have hclaim : (claimId s registry).2 = registry :=
            claimId_registry_of_no_new fun x hx hnew =>
              h x ⟨⟨kind, schema, hkind, hschema⟩, hread, ⟨entries, hcontent, hx⟩, hnew⟩
          obtain ⟨hclaims, hstops⟩ := checkMapping_registry s registry
          by_cases hshown : s.Shows "id" ∧ s.Shows "version"
          · rw [hclaims hshown, hclaim]
          · exact hstops hshown
        · obtain ⟨d, hd⟩ := checkDocument_of_no_mapping hkind hschema context file hread
            (fun entries he => hmapping ⟨entries, he⟩) registry
          rw [hd]
      · rw [checkDocument_of_errors hkind hschema context file hread]

end

/-! ## The effects of a check -/

/-- A check adds the file of the document as the owner of the id that is to be claimed, and changes
nothing where there is none. -/
def ClaimsWhatIsNew (schemas : SchemaTable) (context : Context) (kindName file : String)
    (doc : Document) (registry : Registry) : Prop :=
  (∀ id, IsToClaim schemas kindName doc registry id →
      (checkDocument schemas context kindName file doc registry).2 = registry.adding id file)
    ∧ ((∀ id, ¬ IsToClaim schemas kindName doc registry id) →
      (checkDocument schemas context kindName file doc registry).2 = registry)

/-- The effects of a check: what it does to the owners, and what it gives where it stops before the
rules. -/
structure CheckEffects (schemas : SchemaTable) (context : Context) (kindName file : String)
    (doc : Document) (registry : Registry) : Prop where
  atMostOne : (checkDocument schemas context kindName file doc registry).2 = registry
    ∨ ∃ id, IsToClaim schemas kindName doc registry id
      ∧ (checkDocument schemas context kindName file doc registry).2 = registry.adding id file
  kept : ∀ id owner, registry.owner? id = some owner →
    (checkDocument schemas context kindName file doc registry).2.owner? id = some owner
  unknownKind : DocumentKind.ofWord? kindName = none →
    checkDocument schemas context kindName file doc registry
      = (.error (.unknownKind kindName), registry)
  noSchema : ∀ kind, DocumentKind.ofWord? kindName = some kind → schemas.get? kind = none →
    checkDocument schemas context kindName file doc registry
      = (.error (.noSchema kind), registry)
  unread : ∀ kind schema, DocumentKind.ofWord? kindName = some kind →
    schemas.get? kind = some schema → doc.errors ≠ [] →
    ∃ ds, checkDocument schemas context kindName file doc registry = (.ok ds, registry)
      ∧ List.Forall₂ (fun e d => d.kind = .yamlSyntax ∧ d.file = file ∧ d.message = e.message
        ∧ d.line = e.line ∧ d.field = none ∧ d.suggestion = e.suggestion) doc.errors ds
  noMapping : ∀ kind schema, DocumentKind.ofWord? kindName = some kind →
    schemas.get? kind = some schema → doc.errors = [] →
    (∀ entries, doc.content ≠ .mapping entries) →
    ∃ d, checkDocument schemas context kindName file doc registry = (.ok [d], registry)
  claims_iff : ClaimsWhatIsNew schemas context kindName file doc registry
    ↔ ((∃ id, IsToClaim schemas kindName doc registry id) → ShowsVersion doc)

/-- Every check, of any document against any schemas, adds at most one owner and changes none. What
has no mapping adds none. The id that is to be claimed is claimed if and only if the version can be
shown. -/
theorem checkDocument_effects (schemas : SchemaTable) (context : Context) (kindName file : String)
    (doc : Document) (registry : Registry) :
    CheckEffects schemas context kindName file doc registry := by
  have hone : (checkDocument schemas context kindName file doc registry).2 = registry
      ∨ ∃ id, IsToClaim schemas kindName doc registry id
        ∧ (checkDocument schemas context kindName file doc registry).2
          = registry.adding id file := by
    by_cases hid : ∃ id, IsToClaim schemas kindName doc registry id
    · obtain ⟨id, hid⟩ := hid
      obtain ⟨hshown, hhidden⟩ := checkDocument_registry_of_isToClaim hid context file
      by_cases hversion : ShowsVersion doc
      · exact .inr ⟨id, hid, hshown hversion⟩
      · exact .inl (hhidden hversion)
    · exact .inl (checkDocument_registry_of_none (fun id h => hid ⟨id, h⟩) context file)
  refine ⟨hone, ?_, ?_, ?_, ?_, ?_, ?_⟩
  · intro id owner howner
    rcases hone with hsame | ⟨new, -, hadded⟩
    · rw [hsame, howner]
    · rw [hadded, owner?_adding howner]
  · exact fun h => checkDocument_of_unknown h context file doc registry
  · exact fun kind h hschema => checkDocument_of_no_schema h hschema context file doc registry
  · intro kind schema h hschema herrors
    refine ⟨_, checkDocument_of_errors h hschema context file herrors registry, ?_⟩
    rw [List.forall₂_map_right_iff]
    exact List.forall₂_same.mpr fun e _ => ⟨rfl, rfl, rfl, rfl, rfl, rfl⟩
  · exact fun kind schema h hschema hread hno =>
      checkDocument_of_no_mapping h hschema context file hread hno registry
  · constructor
    · rintro ⟨hclaims, -⟩ ⟨id, hid⟩
      by_contra hhidden
      -- The registry would have an owner more than it has.
      have hsame := (hclaims id hid).symm.trans
        ((checkDocument_registry_of_isToClaim hid context file).2 hhidden)
      have hlength := congrArg (fun r : Registry => r.owners.length) hsame
      simp [Registry.adding] at hlength
    · intro hversion
      exact ⟨fun id hid => (checkDocument_registry_of_isToClaim hid context file).1
          (hversion ⟨id, hid⟩),
        fun hno => checkDocument_registry_of_none hno context file⟩

/-- A tenet with a new id, and a whole number of 4301 digits as its version. -/
def longVersionTenet : Document where
  content := .mapping [("id", .str "x"), ("last_modified", .str "2025-05-10"),
    ("version", .scalar (.int (10 ^ 4300)))]
  lines := [("id", 1), ("last_modified", 2), ("version", 3)]

/-- The id of the tenet is to be claimed, but its check leaves it without an owner. -/
theorem not_claimsWhatIsNew_of_long_version :
    IsToClaim .standard "tenet" longVersionTenet {} "x"
      ∧ (checkDocument .standard ⟨"1.0.0", []⟩ "tenet" "a.md" longVersionTenet {}).2 = {}
      ∧ ¬ ClaimsWhatIsNew .standard ⟨"1.0.0", []⟩ "tenet" "a.md" longVersionTenet {} := by
  have hid : IsToClaim .standard "tenet" longVersionTenet {} "x" :=
    ⟨⟨.tenet, _, by decide, rfl⟩, rfl, ⟨_, rfl, rfl⟩, rfl⟩
  have hsame : (checkDocument .standard ⟨"1.0.0", []⟩ "tenet" "a.md" longVersionTenet {}).2
      = {} := by
    decide +kernel
  refine ⟨hid, hsame, fun h => ?_⟩
  have hadded := (h.1 "x" hid).symm.trans hsame
  cases hadded

end FrontMatter
