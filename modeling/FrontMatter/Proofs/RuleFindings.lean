import FrontMatter.Proofs.FieldForms
import FrontMatter.Proofs.Results
import FrontMatter.Proofs.ShownValues
import FrontMatter.Proofs.Tables
import FrontMatter.Rules.Check

/-!
# `FrontMatter.Proofs.RuleFindings` — the findings are the broken rules

A mapping breaks rules, each with a kind and a field. The check reports every broken rule once and
nothing else, whatever the values are, as long as the values that messages quote can be shown. A
whole number too long to be shown stops the check, and no findings are left.

## Contents

* `Breaks`: the rules that a mapping breaks.
* `Reports`: findings that tell given breaks, each once, at the lines of the fields.
* `Meets`: a check that gives such findings or stops.
* `requiredKeys_meets` to `unknownKeys_meets`: the rules one by one.
* `claimId_reports`: the claim of the id, which stands among them.
* `checkMapping_reports`, `checkMapping_stops`: all of them together.
* `checkMapping_complete`: the breaks that are told, for schemas with repeated keys as well.
* `checkDocument_exact_iff`: when the findings about a document are the rules that it breaks.
-/

namespace FrontMatter

/-! ## Broken rules -/

/-- The rules that a mapping breaks, by kind and field. The owners of ids are those before the
check. -/
inductive Breaks (s : Subject) (registry : Registry) : DiagnosticKind → String → Prop
  | missing {k : String} (hrequired : k ∈ s.schema.required) (habsent : k ∉ s.entries.keys) :
      Breaks s registry .missingField k
  | idForm {v : Value} (hv : s.entries.get? "id" = some v) (hform : ¬ IsSlug v) :
      Breaks s registry .invalidFormat "id"
  | dateForm {v : Value} (hv : s.entries.get? "last_modified" = some v) (hform : ¬ IsDay v) :
      Breaks s registry .invalidFormat "last_modified"
  | versionForm {v : Value} (hv : s.entries.get? "version" = some v) (hform : ¬ IsVersion v) :
      Breaks s registry .invalidFormat "version"
  | otherVersion {t : String} (hv : s.entries.get? "version" = some (.str t))
      (hform : IsVersionText t) (hother : t ≠ s.context.expectedVersion) :
      Breaks s registry .versionMismatch "version"
  | derivedForm {v : Value} (hkind : s.kind = .binding)
      (hv : s.entries.get? "derived_from" = some v) (hform : ¬ IsSlug v) :
      Breaks s registry .invalidFormat "derived_from"
  | enforcedForm {v : Value} (hkind : s.kind = .binding)
      (hv : s.entries.get? "enforced_by" = some v) (hform : ¬ IsFilledText v) :
      Breaks s registry .invalidFormat "enforced_by"
  | ownedId {id owner : String} (hv : s.entries.get? "id" = some (.str id))
      (howner : registry.owner? id = some owner) (hother : owner ≠ s.file) :
      Breaks s registry .duplicateId "id"
  | noTenet {v : Value} (hkind : s.kind = .binding)
      (hv : s.entries.get? "derived_from" = some v)
      (hnone : ¬ ∃ t ∈ s.context.tenetIds, v = .str t) :
      Breaks s registry .nonexistentReference "derived_from"
  | unknown {k : String} (hthere : k ∈ s.entries.keys) (hrequired : k ∉ s.schema.required)
      (hoptional : k ∉ s.schema.optional) :
      Breaks s registry .unknownKey k

/-- Breaks by kind and field. -/
abbrev BreakSet := DiagnosticKind → String → Prop

/-- Findings about a mapping that tell given breaks: all of them and no others, each once, and at
the lines of their fields. -/
structure Reports (s : Subject) (breaks : BreakSet) (ds : List Diagnostic) : Prop where
  complete : ∀ kind field, (∃ d ∈ ds, d.kind = kind ∧ d.field = some field) ↔ breaks kind field
  once : (ds.map fun d => (d.kind, d.field)).Nodup
  placed : ∀ d ∈ ds, d.file = s.file ∧ ∃ field, d.field = some field ∧ d.line = s.lines.get? field

namespace Reports

variable {s : Subject} {breaks others : BreakSet} {ds es : List Diagnostic}

/-- Equal breaks are told by the same findings. -/
theorem congr (h : Reports s breaks ds)
    (heq : ∀ kind field, breaks kind field ↔ others kind field) : Reports s others ds :=
  ⟨fun kind field => (h.complete kind field).trans (heq kind field), h.once, h.placed⟩

/-- Every finding tells one of the breaks, at its own field. -/
theorem breaks_of_mem (h : Reports s breaks ds) {d : Diagnostic} (hd : d ∈ ds) :
    ∃ field, d.field = some field ∧ breaks d.kind field := by
  obtain ⟨-, field, hfield, -⟩ := h.placed d hd
  exact ⟨field, hfield, (h.complete _ _).mp ⟨d, hd, rfl, hfield⟩⟩

/-- One finding of a kind for each of some fields. -/
theorem ofFields (kind : DiagnosticKind) {fields : List String} (hnodup : fields.Nodup)
    (message advice : String → String) :
    Reports s (fun kind' field => kind' = kind ∧ field ∈ fields)
      (fields.map fun k => s.finding kind k (message k) (advice k)) where
  complete kind' field := by
    simp only [List.mem_map, exists_exists_and_eq_and, Subject.finding, Option.some.injEq]
    constructor
    · rintro ⟨k, hk, rfl, rfl⟩
      exact ⟨rfl, hk⟩
    · rintro ⟨rfl, hk⟩
      exact ⟨field, hk, rfl, rfl⟩
  once := by
    rw [List.map_map]
    refine hnodup.map fun a b hab => ?_
    exact Option.some.inj (Prod.mk.inj hab).2
  placed := by
    intro d hd
    obtain ⟨k, -, rfl⟩ := List.mem_map.mp hd
    exact ⟨rfl, k, rfl, rfl⟩

/-- Findings of different breaks, one after the other. -/
theorem append (hds : Reports s breaks ds) (hes : Reports s others es)
    (hdisjoint : ∀ kind field, breaks kind field → ¬ others kind field) :
    Reports s (fun kind field => breaks kind field ∨ others kind field) (ds ++ es) where
  complete kind field := by
    rw [← hds.complete, ← hes.complete]
    simp only [List.mem_append, or_and_right, exists_or]
  once := by
    rw [List.map_append, List.nodup_append]
    refine ⟨hds.once, hes.once, ?_⟩
    intro a ha b hb hab
    obtain ⟨d, hd, rfl⟩ := List.mem_map.mp ha
    obtain ⟨e, he, rfl⟩ := List.mem_map.mp hb
    obtain ⟨field, hfield, hbreaks⟩ := hds.breaks_of_mem hd
    -- Two findings of one kind at one field would tell a break that both parts have.
    obtain ⟨hkind, hsame⟩ := Prod.mk.inj hab
    apply hdisjoint d.kind field hbreaks
    exact (hes.complete _ _).mp ⟨e, he, hkind.symm, hsame.symm.trans hfield⟩
  placed := by
    intro d hd
    rcases List.mem_append.mp hd with hd | hd
    · exact hds.placed d hd
    · exact hes.placed d hd

end Reports

/-! ## Checks that may stop -/

/-- A field whose value, if there is one, a message can quote. -/
def Subject.Shows (s : Subject) (field : String) : Prop :=
  ∀ v, s.entries.get? field = some v → v.IsShown

/-- A check that tells given breaks where a condition holds, and stops where it does not. -/
structure Meets (s : Subject) (result : Except TooLong (List Diagnostic)) (shown : Prop)
    (breaks : BreakSet) : Prop where
  found : shown → ∃ ds, result = .ok ds ∧ Reports s breaks ds
  stopped : ¬ shown → result = .error .mk

variable {s : Subject}

/-- Such a check gives a result exactly where its condition holds. -/
theorem Meets.isOk_iff {result : Except TooLong (List Diagnostic)} {shown : Prop}
    {breaks : BreakSet} (h : Meets s result shown breaks) : IsOk result ↔ shown := by
  by_cases hshown : shown
  · obtain ⟨ds, hds, -⟩ := h.found hshown
    exact iff_of_true ⟨ds, hds⟩ hshown
  · refine iff_of_false ?_ hshown
    rintro ⟨ds, hds⟩
    rw [h.stopped hshown] at hds
    cases hds

/-- A check without a condition. -/
theorem Meets.ofReports {breaks : BreakSet} {ds : List Diagnostic} (h : Reports s breaks ds) :
    Meets s (.ok ds) True breaks :=
  ⟨fun _ => ⟨ds, rfl, h⟩, fun hno => absurd trivial hno⟩

/-- No rules report nothing. -/
theorem runRules_nil_meets : Meets s (runRules [] s) True fun _ _ => False :=
  Meets.ofReports ⟨by simp, by simp, by simp⟩

/-- The rules after the first one go on where the first one has not stopped. -/
theorem runRules_cons (rule : Rule) (rules : List Rule) (s : Subject) :
    runRules (rule :: rules) s
      = (rule s).bind fun ds => (runRules rules s).map fun es => ds ++ es := by
  unfold runRules
  rw [mapM_cons_eq]
  cases rule s with
  | error e => rfl
  | ok ds => cases rules.mapM fun r => r s <;> rfl

/-- Rules give a result if each of them does. -/
theorem isOk_runRules_cons_iff (rule : Rule) (rules : List Rule) (s : Subject) :
    IsOk (runRules (rule :: rules) s) ↔ IsOk (rule s) ∧ IsOk (runRules rules s) := by
  rw [runRules_cons]
  exact isOk_bind_iff fun ds => isOk_map_iff

/-- A rule and the rules after it. -/
theorem runRules_cons_meets {rule : Rule} {rules : List Rule} {shown shownAfter : Prop}
    {breaks others : BreakSet} (hrule : Meets s (rule s) shown breaks)
    (hrules : Meets s (runRules rules s) shownAfter others)
    (hdisjoint : ∀ kind field, breaks kind field → ¬ others kind field) :
    Meets s (runRules (rule :: rules) s) (shown ∧ shownAfter)
      (fun kind field => breaks kind field ∨ others kind field) where
  found := by
    rintro ⟨hshown, hafter⟩
    obtain ⟨ds, hds, hreports⟩ := hrule.found hshown
    obtain ⟨es, hes, hothers⟩ := hrules.found hafter
    refine ⟨ds ++ es, ?_, hreports.append hothers hdisjoint⟩
    rw [runRules_cons, hds, hes]
    rfl
  stopped := by
    intro hno
    rw [runRules_cons]
    -- Either the first rule stops, or a later one does and what the first one found is lost.
    by_cases hshown : shown
    · obtain ⟨ds, hds, -⟩ := hrule.found hshown
      rw [hds, hrules.stopped fun hafter => hno ⟨hshown, hafter⟩]
      rfl
    · rw [hrule.stopped hshown]
      rfl

/-- The same check with its condition and its breaks told in other words. -/
theorem Meets.congr {result : Except TooLong (List Diagnostic)} {shown shown' : Prop}
    {breaks breaks' : BreakSet} (h : Meets s result shown breaks) (hshown : shown ↔ shown')
    (hbreaks : ∀ kind field, breaks kind field ↔ breaks' kind field) :
    Meets s result shown' breaks' where
  found := by
    intro hs
    obtain ⟨ds, hds, hreports⟩ := h.found (hshown.mpr hs)
    exact ⟨ds, hds, hreports.congr hbreaks⟩
  stopped := fun hno => h.stopped fun hs => hno (hshown.mp hs)

/-! ## The rules one by one -/

/-- One kind of break at one field, where a condition holds. -/
def At (kind : DiagnosticKind) (field : String) (condition : Prop) : BreakSet :=
  fun kind' field' => (kind' = kind ∧ field' = field) ∧ condition

/-- A value that is there and does not have a form. -/
def FailsForm (s : Subject) (field : String) (form : Value → Prop) : Prop :=
  ∃ v, s.entries.get? field = some v ∧ ¬ form v

/-- A finding where a condition holds. -/
theorem Reports.one {kind : DiagnosticKind} {field message advice : String} {condition : Prop}
    (h : condition) :
    Reports s (At kind field condition) [s.finding kind field message advice] := by
  refine (Reports.ofFields kind (List.nodup_singleton field) (fun _ => message)
    fun _ => advice).congr fun kind' field' => ?_
  simp [At, h]

/-- Nothing where a condition does not hold. -/
theorem Reports.none {kind : DiagnosticKind} {field : String} {condition : Prop}
    (h : ¬ condition) : Reports s (At kind field condition) [] :=
  ⟨by simp [At, h], by simp, by simp⟩

/-- Every required key that is not there is told. -/
theorem requiredKeys_meets (hnodup : s.schema.required.Nodup) :
    Meets s (requiredKeys s) True fun kind field =>
      kind = .missingField ∧ field ∈ s.schema.required ∧ field ∉ s.entries.keys := by
  refine Meets.ofReports ((Reports.ofFields .missingField (hnodup.filter _) _ _).congr ?_)
  intro kind field
  simp [← Table.holds_iff]

/-- Nothing else is told, whether a key is required once or more often. -/
theorem kind_of_requiredKeys {ds : List Diagnostic} (h : requiredKeys s = .ok ds) :
    ∀ d ∈ ds, d.kind = .missingField := by
  obtain rfl := Except.ok.inj h
  intro d hd
  obtain ⟨k, -, rfl⟩ := List.mem_map.mp hd
  rfl

/-- Every key that is not allowed is told. -/
theorem unknownKeys_meets (hnodup : s.entries.keys.Nodup) :
    Meets s (unknownKeys s) True fun kind field => kind = .unknownKey ∧
      field ∈ s.entries.keys ∧ field ∉ s.schema.required ∧ field ∉ s.schema.optional := by
  refine Meets.ofReports ((Reports.ofFields .unknownKey (hnodup.filter _) _ _).congr ?_)
  intro kind field
  simp [Schema.allowed]

section FieldRules

variable {kind : DiagnosticKind} {field : String} {passes : Subject → Value → Bool}
  {words : Subject → Value → Except TooLong (String × String)} {form : Value → Prop}

/-- A field rule tells a value without the form, unless its words cannot be given. -/
theorem fieldRule_meets {shown : Prop} (hform : ∀ v, passes s v = true ↔ form v)
    (hfound : shown → ∀ v, s.entries.get? field = some v → ∃ w, words s v = .ok w)
    (hstopped : ¬ shown →
      ∃ v, s.entries.get? field = some v ∧ ¬ form v ∧ words s v = .error .mk) :
    Meets s (fieldRule kind field passes words s) shown
      (At kind field (FailsForm s field form)) where
  found := by
    intro hshown
    unfold fieldRule
    cases hv : s.entries.get? field with
    | none => exact ⟨[], rfl, Reports.none (by simp [FailsForm, hv])⟩
    | some v =>
      dsimp only
      by_cases hpasses : passes s v = true
      · exact ⟨[], if_pos hpasses, Reports.none (by simp [FailsForm, hv, ← hform, hpasses])⟩
      · obtain ⟨w, hw⟩ := hfound hshown v hv
        rw [if_neg hpasses, hw]
        exact ⟨_, rfl, Reports.one ⟨v, hv, fun h => hpasses ((hform v).mpr h)⟩⟩
  stopped := by
    intro hno
    obtain ⟨v, hv, hfails, hwords⟩ := hstopped hno
    unfold fieldRule
    rw [hv]
    dsimp only
    rw [if_neg fun hpasses => hfails ((hform v).mp hpasses), hwords]
    rfl

/-- A field rule whose words do not quote the value never stops. -/
theorem fieldRule_plain_meets (hform : ∀ v, passes s v = true ↔ form v)
    (hwords : ∀ v, ∃ w, words s v = .ok w) :
    Meets s (fieldRule kind field passes words s) True (At kind field (FailsForm s field form)) :=
  fieldRule_meets hform (fun _ v _ => hwords v) fun hno => absurd trivial hno

/-- A field rule for texts that quotes the value stops where the value cannot be quoted. -/
theorem fieldRule_quoting_meets (hform : ∀ v, passes s v = true ↔ form v)
    (htext : ∀ v, form v → ∃ t, v = .str t)
    (phrase : String → String × String) (hwords : ∀ v, words s v = v.text.map phrase) :
    Meets s (fieldRule kind field passes words s) (s.Shows field)
      (At kind field (FailsForm s field form)) := by
  apply fieldRule_meets hform
  · intro hshows v hv
    obtain ⟨shown, hshown⟩ := v.isOk_text_iff.mpr (hshows v hv)
    exact ⟨phrase shown, by rw [hwords, hshown]; rfl⟩
  · intro hno
    obtain ⟨v, hv, hhidden⟩ : ∃ v, s.entries.get? field = some v ∧ ¬ v.IsShown := by
      simpa [Subject.Shows] using hno
    refine ⟨v, hv, ?_, ?_⟩
    · -- A value of the form is a text, and a text can be quoted.
      intro hv
      obtain ⟨t, rfl⟩ := htext v hv
      exact hhidden (isShown_str t)
    · rw [hwords, text_eq_error hhidden]
      rfl

end FieldRules

/-- The id is told if it is no slug. -/
theorem idFormat_meets : Meets s (idFormat s) (s.Shows "id")
    (At .invalidFormat "id" (FailsForm s "id" IsSlug)) :=
  fieldRule_quoting_meets (fun _ => isSlug_iff) (fun _ ⟨t, ht, _⟩ => ⟨t, ht⟩) _ fun _ => rfl

/-- The date of the last change is told if it is no day. -/
theorem lastModified_meets : Meets s (lastModified s) True
    (At .invalidFormat "last_modified" (FailsForm s "last_modified" IsDay)) :=
  fieldRule_plain_meets (fun _ => isIsoDate_iff) fun _ => ⟨_, rfl⟩

/-- The tenet that a binding names is told if it is no slug. -/
theorem derivedFromFormat_meets : Meets s (derivedFromFormat s) True
    (At .invalidFormat "derived_from" (FailsForm s "derived_from" IsSlug)) :=
  fieldRule_plain_meets (fun _ => isSlug_iff) fun _ => ⟨_, rfl⟩

/-- What enforces a binding is told if it is no text with characters. -/
theorem enforcedByFormat_meets : Meets s (enforcedByFormat s) True
    (At .invalidFormat "enforced_by" (FailsForm s "enforced_by" IsFilledText)) :=
  fieldRule_plain_meets (fun _ => isNonEmptyText_iff) fun _ => ⟨_, rfl⟩

/-- The id of a known tenet. -/
def IsKnownTenet (context : Context) (v : Value) : Prop :=
  ∃ t ∈ context.tenetIds, v = .str t

/-- The test for references passes the ids of known tenets. -/
theorem tenetIds_contains_iff (context : Context) (v : Value) :
    (v.str?.map context.tenetIds.contains).getD false = true ↔ IsKnownTenet context v := by
  unfold IsKnownTenet
  cases hv : v.str? with
  | none =>
    have hother : ∀ t, v ≠ .str t := by
      intro t ht
      rw [Value.str?_eq_some_iff.mpr ht] at hv
      cases hv
    simp [hother]
  | some t =>
    obtain rfl := Value.str?_eq_some_iff.mp hv
    simp

/-- The tenet that a binding names is told if it is not known. -/
theorem tenetReference_meets : Meets s (tenetReference s) (s.Shows "derived_from")
    (At .nonexistentReference "derived_from"
      (FailsForm s "derived_from" (IsKnownTenet s.context))) :=
  fieldRule_quoting_meets (fun v => tenetIds_contains_iff s.context v) (fun _ ⟨t, _, ht⟩ => ⟨t, ht⟩) _
    fun _ => rfl

/-- A version that is there and is not the expected one. -/
def OtherVersion (s : Subject) : Prop :=
  ∃ t, s.entries.get? "version" = some (.str t) ∧ IsVersionText t ∧ t ≠ s.context.expectedVersion

/-- The version is told if it is none, or else if it is not the expected one. -/
theorem version_meets : Meets s (version s) (s.Shows "version") fun kind field =>
    At .invalidFormat "version" (FailsForm s "version" IsVersion) kind field
      ∨ At .versionMismatch "version" (OtherVersion s) kind field := by
  have hdisjoint : ∀ kind field,
      At .invalidFormat "version" (FailsForm s "version" IsVersion) kind field →
        ¬ At .versionMismatch "version" (OtherVersion s) kind field := by
    rintro _ _ ⟨⟨rfl, rfl⟩, -⟩ ⟨⟨hkind, -⟩, -⟩
    cases hkind
  unfold version
  dsimp only
  cases hv : s.entries.get? "version" with
  | none =>
    have hversion : ¬ FailsForm s "version" IsVersion := by simp [FailsForm, hv]
    have hother : ¬ OtherVersion s := by simp [OtherVersion, hv]
    refine (Meets.ofReports ?_).congr (by simp [Subject.Shows, hv]) fun _ _ => Iff.rfl
    exact (Reports.none hversion).append (Reports.none hother) hdisjoint
  | some v =>
    dsimp only
    -- Only a version is compared with the expected one, so at most one of the two is told.
    by_cases hform : v.isSemver = true
    · obtain ⟨t, rfl, ht⟩ := isSemver_iff.mp hform
      have hversion : ¬ FailsForm s "version" IsVersion := by
        simp [FailsForm, hv, ← isSemver_iff, hform]
      have hshown : True ↔ s.Shows "version" := by simp [Subject.Shows, hv, isShown_str]
      rw [if_pos hform]
      show Meets s (if t == s.context.expectedVersion then _ else _) _ _
      split
      · next hsame =>
        have hother : ¬ OtherVersion s := by
          simpa [OtherVersion, hv] using fun _ => beq_iff_eq.mp hsame
        refine (Meets.ofReports ?_).congr hshown fun _ _ => Iff.rfl
        exact (Reports.none hversion).append (Reports.none hother) hdisjoint
      · next hdiffers =>
        have hother : OtherVersion s := ⟨t, hv, ht, fun h => hdiffers (beq_iff_eq.mpr h)⟩
        refine (Meets.ofReports ?_).congr hshown fun _ _ => Iff.rfl
        exact (Reports.none hversion).append (Reports.one hother) hdisjoint
    · have hversion : ¬ IsVersion v := fun h => hform (isSemver_iff.mpr h)
      have hother : ¬ OtherVersion s := by
        rintro ⟨t, ht, htext, -⟩
        rw [hv] at ht
        cases ht
        exact hversion ⟨t, rfl, htext⟩
      rw [if_neg hform]
      dsimp only
      constructor
      · intro hshows
        obtain ⟨shown, hshown⟩ := v.isOk_text_iff.mpr (hshows v hv)
        rw [hshown]
        exact ⟨_, rfl, (Reports.one ⟨v, hv, hversion⟩).append (Reports.none hother) hdisjoint⟩
      · intro hno
        rw [text_eq_error (by simpa [Subject.Shows, hv] using hno)]
        rfl

/-! ## All rules -/

/-- The kinds of breaks that are told before the id is claimed. -/
def IsBeforeClaim (kind : DiagnosticKind) : Prop :=
  kind = .missingField ∨ kind = .invalidFormat ∨ kind = .versionMismatch

/-- The kinds of breaks that are told after the id is claimed. -/
def IsAfterClaim (kind : DiagnosticKind) : Prop :=
  kind = .nonexistentReference ∨ kind = .unknownKey

/-- Every break is told before the claim, by the claim, or after it. -/
theorem Breaks.stage {registry : Registry} {kind : DiagnosticKind} {field : String}
    (h : Breaks s registry kind field) :
    IsBeforeClaim kind ∨ kind = .duplicateId ∨ IsAfterClaim kind := by
  cases h <;> simp [IsBeforeClaim, IsAfterClaim]

/-- The rules before the claim look for the required keys first. Then come rules about the forms of
values, three for all documents and two more for bindings; these quote the id and the version. -/
theorem rulesBeforeClaim_split (s : Subject) (registry : Registry) :
    ∃ rest, rulesBeforeClaim s.kind = requiredKeys :: rest
      ∧ Meets s (runRules rest s) (s.Shows "id" ∧ s.Shows "version") fun kind field =>
        (kind = .invalidFormat ∨ kind = .versionMismatch) ∧ Breaks s registry kind field := by
  have hbinding : ∃ rest,
      rulesBeforeClaim s.kind = requiredKeys :: idFormat :: lastModified :: version :: rest
      ∧ Meets s (runRules rest s) True fun kind field => s.kind = .binding ∧
        (At .invalidFormat "derived_from" (FailsForm s "derived_from" IsSlug) kind field ∨
          At .invalidFormat "enforced_by" (FailsForm s "enforced_by" IsFilledText) kind field) := by
    cases hkind : s.kind with
    | tenet => exact ⟨[], rfl, runRules_nil_meets.congr Iff.rfl (by simp)⟩
    | binding =>
      refine ⟨[derivedFromFormat, enforcedByFormat], rfl, ?_⟩
      refine (runRules_cons_meets derivedFromFormat_meets (runRules_cons_meets
        enforcedByFormat_meets runRules_nil_meets ?_) ?_).congr (by simp) (by simp)
      · simp
      · rintro _ _ ⟨⟨rfl, rfl⟩, -⟩
        simp [At]
  obtain ⟨rest, hrules, hrest⟩ := hbinding
  refine ⟨_, hrules, ?_⟩
  -- No two of the rules tell the same kind of break at the same field.
  refine (runRules_cons_meets idFormat_meets (runRules_cons_meets lastModified_meets
    (runRules_cons_meets version_meets hrest ?_) ?_) ?_).congr (by simp) fun kind field => ?_
  · rintro _ _ (⟨⟨rfl, rfl⟩, -⟩ | ⟨⟨rfl, rfl⟩, -⟩) <;> simp [At]
  · rintro _ _ ⟨⟨rfl, rfl⟩, -⟩
    simp [At]
  · rintro _ _ ⟨⟨rfl, rfl⟩, -⟩
    simp [At]
  · -- Together they tell the breaks of their kinds.
    constructor
    · rintro (⟨⟨rfl, rfl⟩, v, hv, hf⟩ | ⟨⟨rfl, rfl⟩, v, hv, hf⟩
        | (⟨⟨rfl, rfl⟩, v, hv, hf⟩ | ⟨⟨rfl, rfl⟩, t, ht, hf, ho⟩)
        | ⟨hb, ⟨⟨rfl, rfl⟩, v, hv, hf⟩ | ⟨⟨rfl, rfl⟩, v, hv, hf⟩⟩)
      · exact ⟨.inl rfl, .idForm hv hf⟩
      · exact ⟨.inl rfl, .dateForm hv hf⟩
      · exact ⟨.inl rfl, .versionForm hv hf⟩
      · exact ⟨.inr rfl, .otherVersion ht hf ho⟩
      · exact ⟨.inl rfl, .derivedForm hb hv hf⟩
      · exact ⟨.inl rfl, .enforcedForm hb hv hf⟩
    · rintro ⟨hform, hbreaks⟩
      cases hbreaks <;> simp_all [At, FailsForm, OtherVersion]

/-- The rules before the claim quote the id and the version. -/
theorem rulesBeforeClaim_meets (registry : Registry) (hnodup : s.schema.required.Nodup) :
    Meets s (runRules (rulesBeforeClaim s.kind) s) (s.Shows "id" ∧ s.Shows "version")
      fun kind field => IsBeforeClaim kind ∧ Breaks s registry kind field := by
  obtain ⟨rest, hrules, hrest⟩ := rulesBeforeClaim_split s registry
  rw [hrules]
  refine (runRules_cons_meets (requiredKeys_meets hnodup) hrest ?_).congr (by simp)
    fun kind field => ?_
  · rintro _ _ ⟨rfl, -⟩
    simp
  · constructor
    · rintro (⟨rfl, hr, ha⟩ | ⟨hform, hbreaks⟩)
      · exact ⟨.inl rfl, .missing hr ha⟩
      · exact ⟨.inr hform, hbreaks⟩
    · rintro ⟨rfl | hform, hbreaks⟩
      · cases hbreaks with
        | missing hr ha => exact .inl ⟨rfl, hr, ha⟩
      · exact .inr ⟨hform, hbreaks⟩

/-- They stop only there, whatever keys the schema requires. -/
theorem isOk_rulesBeforeClaim_iff (s : Subject) :
    IsOk (runRules (rulesBeforeClaim s.kind) s) ↔ s.Shows "id" ∧ s.Shows "version" := by
  obtain ⟨rest, hrules, hrest⟩ := rulesBeforeClaim_split s {}
  have hrequired : IsOk (requiredKeys s) := isOk_ok _
  rw [hrules, isOk_runRules_cons_iff, hrest.isOk_iff, iff_true_intro hrequired, true_and]

/-- The rules after the claim quote the tenet that a binding names. -/
theorem rulesAfterClaim_meets (registry : Registry) (hnodup : s.entries.keys.Nodup) :
    Meets s (runRules (rulesAfterClaim s.kind) s) (s.kind = .binding → s.Shows "derived_from")
      fun kind field => IsAfterClaim kind ∧ Breaks s registry kind field := by
  have hunknown : Meets s (runRules [unknownKeys] s) (True ∧ True) _ :=
    runRules_cons_meets (unknownKeys_meets hnodup) runRules_nil_meets (by simp)
  cases hkind : s.kind with
  | tenet =>
    refine hunknown.congr (by simp) fun kind field => ?_
    constructor
    · rintro (⟨rfl, ht, hr, ho⟩ | hno)
      · exact ⟨.inr rfl, .unknown ht hr ho⟩
      · exact False.elim hno
    · rintro ⟨hafter, hbreaks⟩
      cases hbreaks <;> simp_all [IsAfterClaim]
  | binding =>
    refine (runRules_cons_meets tenetReference_meets hunknown ?_).congr (by simp)
      fun kind field => ?_
    · rintro _ _ ⟨⟨rfl, rfl⟩, -⟩
      simp
    · constructor
      · rintro (⟨⟨rfl, rfl⟩, v, hv, hf⟩ | ⟨rfl, ht, hr, ho⟩ | hno)
        · exact ⟨.inl rfl, .noTenet hkind hv hf⟩
        · exact ⟨.inr rfl, .unknown ht hr ho⟩
        · exact False.elim hno
      · rintro ⟨hafter, hbreaks⟩
        cases hbreaks <;> simp_all [At, FailsForm, IsKnownTenet, IsAfterClaim]

/-- Without a text as the id there is nothing to claim. -/
theorem claimId_of_no_id (registry : Registry) (h : ∀ x, s.entries.get? "id" ≠ some (.str x)) :
    claimId s registry = ([], registry) := by
  have hnone : (s.entries.get? "id").bind Value.str? = none := by
    rw [Option.bind_eq_none_iff]
    intro v hv
    rw [Option.eq_none_iff_forall_ne_some]
    intro x hx
    exact h x (hv.trans (congrArg some (Value.str?_eq_some_iff.mp hx)))
  unfold claimId
  rw [hnone]

/-- Claiming an id without an owner makes the file the owner. -/
theorem claimId_of_new {registry : Registry} {x : String}
    (hv : s.entries.get? "id" = some (.str x)) (howner : registry.owner? x = none) :
    claimId s registry = ([], ⟨registry.owners.put x s.file⟩) := by
  unfold claimId Registry.claim
  rw [hv, Option.bind_some, Value.str?_eq_some_iff.mpr rfl]
  simp only [howner]

/-- Claiming an id with an owner changes nothing, and tells the owner if it is another file. -/
theorem claimId_of_owned {registry : Registry} {x owner : String}
    (hv : s.entries.get? "id" = some (.str x)) (howner : registry.owner? x = some owner) :
    claimId s registry
      = (if owner = s.file then [] else [duplicateFinding s x owner], registry) := by
  unfold claimId Registry.claim
  rw [hv, Option.bind_some, Value.str?_eq_some_iff.mpr rfl]
  simp only [howner]
  by_cases hsame : owner = s.file
  · simp [hsame]
  · simp [hsame]

/-- Claiming the id tells an id that another file owns. -/
theorem claimId_reports (s : Subject) (registry : Registry) :
    Reports s (fun kind field => kind = .duplicateId ∧ Breaks s registry kind field)
      (claimId s registry).1 := by
  let owned : Prop := ∃ x owner, s.entries.get? "id" = some (.str x)
    ∧ registry.owner? x = some owner ∧ owner ≠ s.file
  suffices h : Reports s (At .duplicateId "id" owned) (claimId s registry).1 by
    refine h.congr fun kind field => ?_
    constructor
    · rintro ⟨⟨rfl, rfl⟩, x, owner, hv, howner, hother⟩
      exact ⟨rfl, .ownedId hv howner hother⟩
    · rintro ⟨rfl, hbreaks⟩
      cases hbreaks with
      | ownedId hv howner hother => exact ⟨⟨rfl, rfl⟩, _, _, hv, howner, hother⟩
  by_cases hid : ∃ x, s.entries.get? "id" = some (.str x)
  · obtain ⟨x, hv⟩ := hid
    cases howner : registry.owner? x with
    | none =>
      rw [claimId_of_new hv howner]
      exact Reports.none (by simp [owned, hv, howner])
    | some owner =>
      rw [claimId_of_owned hv howner]
      dsimp only
      split
      · next hsame => exact Reports.none (by simp [owned, hv, howner, hsame])
      · next hother => exact Reports.one ⟨x, owner, hv, howner, hother⟩
  · have hno : ∀ x, s.entries.get? "id" ≠ some (.str x) := fun x hv => hid ⟨x, hv⟩
    rw [claimId_of_no_id registry hno]
    exact Reports.none fun ⟨x, _, hv, _⟩ => hno x hv

/-- A mapping whose values all messages can quote. -/
def Subject.ShowsAll (s : Subject) : Prop :=
  (s.Shows "id" ∧ s.Shows "version") ∧ (s.kind = .binding → s.Shows "derived_from")

/-- The findings about a mapping are the rules that it breaks, where its values can be quoted. -/
theorem checkMapping_reports (registry : Registry) (hrequired : s.schema.required.Nodup)
    (hkeys : s.entries.keys.Nodup) (hshows : s.ShowsAll) :
    ∃ ds, (checkMapping s registry).1 = .ok ds ∧ Reports s (Breaks s registry) ds := by
  obtain ⟨before, hb, hbefore⟩ := (rulesBeforeClaim_meets registry hrequired).found hshows.1
  obtain ⟨after, ha, hafter⟩ := (rulesAfterClaim_meets registry hkeys).found hshows.2
  have hclaim := claimId_reports s registry
  refine ⟨before ++ (claimId s registry).1 ++ after, ?_, ?_⟩
  · unfold checkMapping
    rw [hb, ha]
  · -- The three stages tell breaks of different kinds, and every break belongs to one of them.
    refine ((hbefore.append hclaim ?_).append hafter ?_).congr fun kind field => ?_
    · rintro _ _ ⟨rfl | rfl | rfl, -⟩ ⟨hkind, -⟩ <;> cases hkind
    · rintro _ _ (⟨rfl | rfl | rfl, -⟩ | ⟨rfl, -⟩) ⟨hkind | hkind, -⟩ <;> cases hkind
    · constructor
      · rintro ((⟨-, h⟩ | ⟨-, h⟩) | ⟨-, h⟩) <;> exact h
      · intro h
        rcases h.stage with hkind | hkind | hkind
        · exact .inl (.inl ⟨hkind, h⟩)
        · exact .inl (.inr ⟨hkind, h⟩)
        · exact .inr ⟨hkind, h⟩

/-- A value that cannot be quoted stops the check, also if the id has been claimed before. -/
theorem checkMapping_stops (registry : Registry) (hrequired : s.schema.required.Nodup)
    (hkeys : s.entries.keys.Nodup) (hno : ¬ s.ShowsAll) :
    (checkMapping s registry).1 = .error TooLong.mk.fault := by
  unfold checkMapping
  by_cases hbefore : s.Shows "id" ∧ s.Shows "version"
  · obtain ⟨before, hb, -⟩ := (rulesBeforeClaim_meets registry hrequired).found hbefore
    have ha := (rulesAfterClaim_meets registry hkeys).stopped fun hafter => hno ⟨hbefore, hafter⟩
    rw [hb, ha]
  · rw [(rulesBeforeClaim_meets registry hrequired).stopped hbefore]

/-- Where the check of a mapping gives findings, they are the rules that the mapping breaks. -/
theorem checkMapping_reports_of_ok {registry : Registry} {ds : List Diagnostic}
    (h : (checkMapping s registry).1 = .ok ds) (hrequired : s.schema.required.Nodup)
    (hkeys : s.entries.keys.Nodup) : Reports s (Breaks s registry) ds := by
  by_cases hshows : s.ShowsAll
  · obtain ⟨es, hes, hreports⟩ := checkMapping_reports registry hrequired hkeys hshows
    rw [h] at hes
    cases hes
    exact hreports
  · rw [checkMapping_stops registry hrequired hkeys hshows] at h
    cases h

/-- The findings about a mapping are those of the rules before the claim, of the claim, and of the
rules after it. -/
theorem exists_of_checkMapping_eq_ok {registry : Registry} {ds : List Diagnostic}
    (h : (checkMapping s registry).1 = .ok ds) :
    ∃ before after, runRules (rulesBeforeClaim s.kind) s = .ok before
      ∧ runRules (rulesAfterClaim s.kind) s = .ok after
      ∧ ds = before ++ (claimId s registry).1 ++ after := by
  unfold checkMapping at h
  cases hb : runRules (rulesBeforeClaim s.kind) s with
  | error e =>
    rw [hb] at h
    cases h
  | ok before =>
    cases ha : runRules (rulesAfterClaim s.kind) s with
    | error e =>
      rw [hb, ha] at h
      cases h
    | ok after =>
      rw [hb, ha] at h
      exact ⟨before, after, rfl, rfl, (Except.ok.inj h).symm⟩

/-- They tell every break, also where a schema requires a key more than once; only the keys that are
missing are left out here. -/
theorem checkMapping_complete {registry : Registry} {ds : List Diagnostic}
    (h : (checkMapping s registry).1 = .ok ds) (hkeys : s.entries.keys.Nodup)
    {kind : DiagnosticKind} (hkind : kind ≠ .missingField) (field : String) :
    (∃ d ∈ ds, d.kind = kind ∧ d.field = some field) ↔ Breaks s registry kind field := by
  obtain ⟨before, after, hb, ha, rfl⟩ := exists_of_checkMapping_eq_ok h
  obtain ⟨rest, hrules, hrest⟩ := rulesBeforeClaim_split s registry
  have hok := isOk_rulesBeforeClaim_iff s |>.mp ⟨before, hb⟩
  obtain ⟨forms, hforms, hreports⟩ := hrest.found hok
  obtain ⟨missing, hmissing⟩ : IsOk (requiredKeys s) := isOk_ok _
  rw [hrules, runRules_cons, hmissing, hforms] at hb
  obtain rfl : missing ++ forms = before := Except.ok.inj hb
  have hafter := rulesAfterClaim_meets registry hkeys
  obtain ⟨last, hlast, hothers⟩ := hafter.found (hafter.isOk_iff.mp ⟨after, ha⟩)
  obtain rfl : after = last := Except.ok.inj (ha.symm.trans hlast)
  constructor
  · rintro ⟨d, hd, rfl, hfield⟩
    rcases List.mem_append.mp hd with hd | hd
    · rcases List.mem_append.mp hd with hd | hd
      · rcases List.mem_append.mp hd with hd | hd
        · exact absurd (kind_of_requiredKeys hmissing d hd) hkind
        · exact ((hreports.complete _ _).mp ⟨d, hd, rfl, hfield⟩).2
      · exact (((claimId_reports s registry).complete _ _).mp ⟨d, hd, rfl, hfield⟩).2
    · exact ((hothers.complete _ _).mp ⟨d, hd, rfl, hfield⟩).2
  · intro hbreaks
    rcases hbreaks.stage with (hmiss | hform) | hclaim | hstage
    · exact absurd hmiss hkind
    · obtain ⟨d, hd, hboth⟩ := (hreports.complete _ _).mpr ⟨hform, hbreaks⟩
      exact ⟨d, by simp [hd], hboth⟩
    · obtain ⟨d, hd, hboth⟩ := ((claimId_reports s registry).complete _ _).mpr ⟨hclaim, hbreaks⟩
      exact ⟨d, by simp [hd], hboth⟩
    · obtain ⟨d, hd, hboth⟩ := (hothers.complete _ _).mpr ⟨hstage, hbreaks⟩
      exact ⟨d, by simp [hd], hboth⟩

/-- The check of a mapping gives findings if its values can be quoted. -/
theorem isOk_checkMapping {registry : Registry} (hkeys : s.entries.keys.Nodup)
    (hshows : s.ShowsAll) : IsOk (checkMapping s registry).1 := by
  obtain ⟨before, hb⟩ := (isOk_rulesBeforeClaim_iff s).mpr hshows.1
  obtain ⟨after, ha⟩ := (rulesAfterClaim_meets registry hkeys).isOk_iff.mpr hshows.2
  unfold checkMapping
  rw [hb, ha]
  exact isOk_ok _

/-! ## The findings about a document -/

/-- The check of a document that is a mapping is the check of the mapping. -/
theorem checkDocument_eq_checkMapping {schemas : SchemaTable} {kind : DocumentKind}
    {schema : Schema} (hschema : schemas.get? kind = some schema) (context : Context)
    (file : String) {doc : Document} (hread : doc.errors = []) {entries : Entries Value}
    (hcontent : doc.content = .mapping entries) (registry : Registry) :
    checkDocument schemas context kind.word file doc registry
      = checkMapping ⟨file, kind, schema, context, entries, doc.lines⟩ registry := by
  have hfind : schemas.find kind.word = .ok (kind, schema) := by
    simp only [SchemaTable.find, kindOfName, DocumentKind.ofWord?_word, bind, Except.bind, hschema]
    rfl
  unfold checkDocument checkKnown
  rw [hfind]
  dsimp only
  rw [hread, hcontent]
  rfl

/-- The check of a document that is a mapping gives exactly the rules that the mapping breaks, each
once and at the line of its field, if and only if no message has to quote a whole number that is too
long to be shown. -/
theorem checkDocument_exact_iff {schemas : SchemaTable} {kind : DocumentKind} {schema : Schema}
    (hschema : schemas.get? kind = some schema) (hrequired : schema.required.Nodup)
    (context : Context) (file : String) {doc : Document} (hread : doc.errors = [])
    {entries : Entries Value} (hcontent : doc.content = .mapping entries)
    (hkeys : entries.keys.Nodup) (registry : Registry) :
    let s : Subject := ⟨file, kind, schema, context, entries, doc.lines⟩
    (∃ ds, (checkDocument schemas context kind.word file doc registry).1 = .ok ds
        ∧ Reports s (Breaks s registry) ds)
      ↔ s.Shows "id" ∧ s.Shows "version" ∧ (kind = .binding → s.Shows "derived_from") := by
  intro s
  rw [checkDocument_eq_checkMapping hschema context file hread hcontent registry, ← and_assoc]
  constructor
  · rintro ⟨ds, hds, -⟩
    by_contra hno
    rw [checkMapping_stops registry hrequired hkeys hno] at hds
    cases hds
  · exact checkMapping_reports registry hrequired hkeys

/-- A tenet with a bad id and a key that is not allowed. -/
def sampleTenet : Subject where
  file := "docs/tenets/a.md"
  kind := .tenet
  schema := { required := ["id", "last_modified", "version"] }
  context := ⟨"1.0.0", []⟩
  entries := [("id", .str "An id"), ("version", .str "1.0.0"), ("size", .scalar (.int 3))]
  lines := [("id", 2), ("version", 3), ("size", 4)]

/-- The check of the sample gives the rules that it breaks. -/
theorem checkDocument_exact_sample :
    ∃ ds, (checkDocument SchemaTable.standard sampleTenet.context DocumentKind.tenet.word
        sampleTenet.file { content := .mapping sampleTenet.entries, lines := sampleTenet.lines }
        {}).1 = .ok ds
      ∧ Reports sampleTenet (Breaks sampleTenet {}) ds := by
  refine (checkDocument_exact_iff rfl (by decide) _ _ rfl rfl (by decide) _).mpr ⟨?_, ?_, ?_⟩
  · intro v hv
    obtain rfl : Value.str "An id" = v := Option.some.inj hv
    exact isShown_str _
  · intro v hv
    obtain rfl : Value.str "1.0.0" = v := Option.some.inj hv
    exact isShown_str _
  · intro hkind
    cases hkind

/-- The same tenet with a whole number of 4301 digits as its id. -/
def longIdTenet : Subject :=
  { sampleTenet with entries := [("id", .scalar (.int (10 ^ 4300)))] }

/-- A whole number of 4301 digits as the id breaks a rule, and the check stops without findings. -/
theorem checkDocument_stops_at_long_id :
    Breaks longIdTenet {} .invalidFormat "id"
      ∧ (checkDocument SchemaTable.standard longIdTenet.context DocumentKind.tenet.word
        longIdTenet.file { content := .mapping longIdTenet.entries, lines := longIdTenet.lines }
        {}).1 = .error (.tooLong TooLong.mk.message) := by
  constructor
  · refine .idForm rfl ?_
    rintro ⟨t, ht, -⟩
    cases ht
  · decide +kernel

end FrontMatter
