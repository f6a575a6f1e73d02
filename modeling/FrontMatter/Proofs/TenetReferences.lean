import FrontMatter.Proofs.Verdicts

/-!
# `FrontMatter.Proofs.TenetReferences` — bindings name tenets by the names of their files

The tenets that are known in a session are the names of the files with tenets. The ids that tenets
declare play no part in this: a binding that names a tenet by its id is told that there is none,
unless the file has the same name. In a session whose docs root has an anchor there are no documents
of either kind.

## Contents

* `Found.entries?`: the mapping in a document of a tree.
* `exists_of_judge_iff`, `mem_judgeAll_at_iff`: what a run tells a file.
* `IsTenetFile`, `IsTold`: files with tenets, and files that are told something.
* `ReferencesTenetFiles`, `endsWith_referencesTenetFiles`: the bindings of a session.
* `told_of_declared_otherNameTree`: a tenet that is declared and not known.
-/

namespace FrontMatter

open Text (Path)

/-! ## Mappings in documents -/

/-- The entries of the mapping in a document of a tree. -/
def Found.entries? (tree : Tree) (f : Found) : Option (Entries Value) :=
  match readSource tree f with
  | .ok s => s.entries?
  | .error _ => none

/-- The mapping of a document has the kind of the document. -/
theorem kind_of_gives {tree : Tree} {f : Found} {s : Source} (hread : readSource tree f = .ok s)
    {context : Context} {given : Subject} (h : s.Gives context given) : given.kind = f.kind := by
  have hword : given.kind.word = f.kind.word := h.kind.symm.trans (of_readSource hread).2.1
  have hkinds := congrArg DocumentKind.ofWord? hword
  rw [DocumentKind.ofWord?_word, DocumentKind.ofWord?_word] at hkinds
  exact Option.some.inj hkinds

/-- The mapping in a document is the one that its source gives to the rules. -/
theorem entries?_eq_some_iff {tree : Tree} {f : Found} {entries : Entries Value}
    (context : Context) : f.entries? tree = some entries ↔
      ∃ s given, readSource tree f = .ok s ∧ s.Gives context given ∧ given.entries = entries := by
  unfold Found.entries?
  constructor
  · intro h
    split at h
    · next s hread =>
      obtain ⟨given, hgiven⟩ := exists_gives_of_entries? context h
      exact ⟨s, given, hread, hgiven, Option.some.inj (hgiven.entries?.symm.trans h)⟩
    · cases h
  · rintro ⟨s, given, hread, hgiven, rfl⟩
    rw [hread]
    exact hgiven.entries?

/-! ## What a run tells a file -/

/-- A mapping whose values can be quoted is told of each kind what it breaks. -/
theorem exists_of_judge_iff {context : Context} {s : Source} {given : Subject}
    (h : s.Gives context given) (hshows : given.ShowsAll) (registry : Registry)
    (kind : DiagnosticKind) : (∃ d ∈ (judge context registry s).1, d.kind = kind)
      ↔ ∃ field, Breaks given registry kind field := by
  obtain ⟨ds, hfound, hreports⟩ := checkMapping_reports registry
    (nodup_required_of_get?_standard h.schema) h.nodup_keys hshows
  obtain ⟨after, hcheck⟩ : ∃ after, checkMapping given registry = (.ok ds, after) :=
    ⟨_, Prod.ext hfound rfl⟩
  rw [judge_of_gives h, hcheck]
  constructor
  · rintro ⟨d, hd, rfl⟩
    obtain ⟨e, he, rfl⟩ := List.mem_map.mp hd
    obtain ⟨field, -, hbreaks⟩ := hreports.breaks_of_mem he
    exact ⟨field, hbreaks⟩
  · rintro ⟨field, hbreaks⟩
    obtain ⟨e, he, hkind, -⟩ := (hreports.complete kind field).mpr hbreaks
    exact ⟨_, List.mem_map_of_mem he, hkind⟩

/-- Of documents with distinct paths each is told what its own check tells. -/
theorem mem_judgeAll_at_iff {context : Context} {registry : Registry} {pre post : List Source}
    {s : Source} (hpaths : ((pre ++ s :: post).map Source.path).Nodup) {d : Diagnostic} :
    d ∈ (judgeAll context registry (pre ++ s :: post)).1 ∧ d.file = s.path
      ↔ d ∈ (judge context (judgeAll context registry pre).2 s).1 := by
  rw [List.map_append, List.map_cons, List.nodup_append, List.nodup_cons] at hpaths
  obtain ⟨-, ⟨hpost, -⟩, hdisjoint⟩ := hpaths
  rw [judgeAll_append, judgeAll_cons]
  constructor
  · rintro ⟨hd, hfile⟩
    -- A finding about a document before or after this one would be in another file.
    rcases List.mem_append.mp hd with hd | hd
    · obtain ⟨t, ht, before, hjudged⟩ := exists_of_mem_judgeAll hd
      rw [file_of_mem_judge hjudged] at hfile
      exact absurd hfile
        (hdisjoint _ (List.mem_map_of_mem ht) _ List.mem_cons_self)
    · rcases List.mem_append.mp hd with hd | hd
      · exact hd
      · obtain ⟨t, ht, before, hjudged⟩ := exists_of_mem_judgeAll hd
        rw [file_of_mem_judge hjudged] at hfile
        exact absurd (hfile ▸ List.mem_map_of_mem ht) hpost
  · intro hd
    exact ⟨List.mem_append_right _ (List.mem_append_left _ hd), file_of_mem_judge hd⟩

/-- A file that is told something of a kind in a run. -/
def IsTold (run : RunState × Batch) (path : String) (kind : DiagnosticKind) : Prop :=
  ∃ d ∈ run.1.collector.diagnostics, d.file = path ∧ d.kind = kind

/-- In a run from no findings every file is told what its own check tells, with some owners. -/
theorem exists_registry_of_runBatch {sources : List Source}
    (hpaths : (sources.map Source.path).Nodup) (context : Context) (workers : Int) {s : Source}
    (hs : s ∈ sources) : ∃ registry, ∀ kind,
      IsTold (runBatch context workers {} sources) s.path kind
        ↔ ∃ d ∈ (judge context registry s).1, d.kind = kind := by
  have hperm := sortSources_perm sources
  have hsorted : ((sortSources sources).map Source.path).Nodup :=
    (hperm.map Source.path).nodup_iff.mpr hpaths
  obtain ⟨hstate, -⟩ := runBatch_eq context workers {} sources
  obtain ⟨pre, post, hsplit⟩ := List.append_of_mem (hperm.mem_iff.mpr hs)
  rw [hsplit] at hsorted
  refine ⟨(judgeAll context {} pre).2, fun kind => ?_⟩
  unfold IsTold
  rw [hstate, hsplit]
  simp only [← mem_judgeAll_at_iff hsorted, ← and_assoc]
  rfl

/-! ## Tenets that are known -/

/-- The name of a file with a tenet, without its suffix. -/
def IsTenetFile (tree : Tree) (s : Settings) (name : String) : Prop :=
  ∃ f ∈ s.found tree, f.kind = .tenet ∧ f.path.stem = name

/-- The tenets that are known in a session are the names of the files with tenets. -/
theorem isKnownTenet_iff {tree : Tree} {s : Settings} {version x : String} :
    IsKnownTenet (s.context tree version) (.str x) ↔ IsTenetFile tree s x := by
  constructor
  · rintro ⟨t, ht, hsame⟩
    obtain rfl : x = t := Scalar.str.inj (Value.scalar.inj hsame)
    obtain ⟨f, hf, hstem⟩ := List.mem_map.mp ht
    obtain ⟨hfound, htenet⟩ := List.mem_filter.mp hf
    exact ⟨f, hfound, beq_iff_eq.mp htenet, hstem⟩
  · rintro ⟨f, hfound, htenet, rfl⟩
    have hmem : f ∈ (s.found tree).filter fun f => f.kind == .tenet :=
      List.mem_filter.mpr ⟨hfound, beq_iff_eq.mpr htenet⟩
    exact ⟨f.path.stem, List.mem_map_of_mem hmem, rfl⟩

/-- The values of an id and a version that messages can quote. -/
def AreShown (entries : Entries Value) : Prop :=
  ∀ field ∈ ["id", "version"], ∀ v, entries.get? field = some v → v.IsShown

/-- The bindings of a session name tenets by the names of their files: a binding that names a tenet
by a text is told that there is none exactly if no file with a tenet has that name, and what is told
is printed. In a session that passes every binding names a tenet so. -/
structure ReferencesTenetFiles (tree : Tree) (terminal : Bool) (s : Settings)
    (run : RunState × Batch) (v : Verdict) : Prop where
  told : ∀ f ∈ s.found tree, f.kind = .binding → ∀ entries x, f.entries? tree = some entries →
    entries.get? "derived_from" = some (.str x) → AreShown entries →
      (IsTold run f.path.toString .nonexistentReference ↔ ¬ IsTenetFile tree s x)
  printed : PrintsRun terminal s (s.found tree).length run v.output
  passed : v.exit = 0 → ∀ f ∈ s.found tree, f.kind = .binding → ∃ entries x,
    f.entries? tree = some entries ∧ entries.get? "derived_from" = some (.str x)
      ∧ IsTenetFile tree s x

/-- The mapping of a binding of which all that messages quote can be shown. -/
theorem showsAll_of_areShown {given : Subject} {x : String}
    (hx : given.entries.get? "derived_from" = some (.str x)) (h : AreShown given.entries) :
    given.ShowsAll :=
  ⟨⟨h "id" (by simp), h "version" (by simp)⟩, fun _ => shows_of_get? hx⟩

/-- A binding that names a tenet by a text breaks the rule about tenets exactly if there is no such
tenet. -/
theorem breaks_nonexistentReference_iff {s : Subject} (hkind : s.kind = .binding) {x : String}
    (hx : s.entries.get? "derived_from" = some (.str x)) (registry : Registry) :
    (∃ field, Breaks s registry .nonexistentReference field)
      ↔ ¬ IsKnownTenet s.context (.str x) := by
  constructor
  · rintro ⟨field, hbreaks⟩
    cases hbreaks with
    | noTenet _ hv hnone =>
      rw [hx] at hv
      cases hv
      exact hnone
  · intro hnone
    exact ⟨"derived_from", .noTenet hkind hx hnone⟩

/-- A binding that follows the rules names a known tenet. -/
theorem Subject.Follows.exists_tenet {s : Subject} (h : s.Follows) (hkind : s.kind = .binding)
    (hschema : SchemaTable.standard.get? s.kind = some s.schema) :
    ∃ x, s.entries.get? "derived_from" = some (.str x) ∧ IsKnownTenet s.context (.str x) := by
  have hrequired : "derived_from" ∈ s.schema.required := by
    rw [hkind] at hschema
    rw [← Option.some.inj hschema]
    decide
  have hholds := (Table.holds_iff _ _).mpr (h.required _ hrequired)
  rw [Table.holds_eq_isSome, Option.isSome_iff_exists] at hholds
  obtain ⟨v, hv⟩ := hholds
  obtain ⟨⟨x, rfl, -⟩, hknown⟩ := h.derivedFrom hkind v hv
  exact ⟨x, hv, hknown⟩

/-- The check of the documents of a session tells a binding that there is no tenet with the name
that it gives exactly if no file with a tenet has that name. -/
theorem IsChecked.told_iff {tree : Tree} (htree : tree.WellNamed) {s : Settings}
    {version : String} {run : RunState × Batch} (hrun : IsChecked tree s version run) {f : Found}
    (hf : f ∈ s.found tree) (hkind : f.kind = .binding) {entries : Entries Value} {x : String}
    (hentries : f.entries? tree = some entries)
    (hx : entries.get? "derived_from" = some (.str x)) (hshown : AreShown entries) :
    IsTold run f.path.toString .nonexistentReference ↔ ¬ IsTenetFile tree s x := by
  obtain ⟨-, sources, hread, rfl⟩ := hrun
  obtain ⟨source, given, hsource, hgiven, rfl⟩ :=
    (entries?_eq_some_iff (s.context tree version)).mp hentries
  have hpaths : (sources.map Source.path).Nodup := by
    rw [(map_readSource hread).2]
    exact nodup_discover htree _
  have hmem : source ∈ sources := (mem_readSources_iff hread).mpr ⟨f, hf, hsource⟩
  obtain ⟨registry, htold⟩ :=
    exists_registry_of_runBatch hpaths (s.context tree version) s.maxWorkers hmem
  have hbinding : given.kind = .binding := (kind_of_gives hsource hgiven).trans hkind
  rw [← (of_readSource hsource).1, htold,
    exists_of_judge_iff hgiven (showsAll_of_areShown hx hshown),
    breaks_nonexistentReference_iff hbinding hx, hgiven.context, isKnownTenet_iff]

/-- The bindings of every session over a tree of a file system name tenets by the names of their
files. -/
theorem endsWith_referencesTenetFiles {tree : Tree} (htree : tree.WellNamed) {terminal : Bool}
    {s : Settings} {v : Verdict} (h : EndsWith tree terminal s v) {version : String}
    {run : RunState × Batch} (hrun : IsChecked tree s version run) :
    ReferencesTenetFiles tree terminal s run v where
  told := fun f hf hkind entries x hentries hx hshown =>
    hrun.told_iff htree hf hkind hentries hx hshown
  printed := by
    cases h.outcome with
    | noVersion hversion hexit houtput =>
      rw [hrun.expected] at hversion
      cases hversion
    | checked hother hexit houtput => exact hrun.unique hother ▸ houtput
  passed := by
    intro hexit f hf hkind
    obtain ⟨other, -, hpasses, -⟩ := (h.exit_eq_zero_iff htree).mp hexit
    obtain ⟨source, hsource, given, hgiven, hfollows⟩ := hpasses f hf
    have hbinding : given.kind = .binding := (kind_of_gives hsource hgiven).trans hkind
    obtain ⟨x, hx, hknown⟩ := hfollows.exists_tenet hbinding hgiven.schema
    rw [hgiven.context, isKnownTenet_iff] at hknown
    exact ⟨given.entries, x, (entries?_eq_some_iff (s.context tree other)).mpr
      ⟨source, given, hsource, hgiven, rfl⟩, hx, hknown⟩

/-- A tenet in a file with another name than its id, and a binding that names it by its id. -/
def otherNameFiles : List (Path × Option (List UInt8)) :=
  [textFile "VERSION" "1.0.0\n",
   textFile "docs/tenets/a.md"
    "---\nid: simplicity\nlast_modified: '2025-05-10'\nversion: '1.0.0'\n---\n",
   textFile "docs/bindings/core/b.md"
    ("---\nid: b\nlast_modified: '2025-05-10'\nversion: '1.0.0'\nderived_from: simplicity\n"
      ++ "enforced_by: review\n---\n")]

/-- The tree with the two files. -/
def otherNameTree : Tree :=
  Tree.ofFiles otherNameFiles

/-- The documents of the tree are the tenet and the binding. -/
theorem mem_found_otherNameTree {f : Found} : f ∈ ({} : Settings).found otherNameTree
    ↔ f = ⟨Path.ofString "docs/tenets/a.md", .tenet⟩
      ∨ f = ⟨Path.ofString "docs/bindings/core/b.md", .binding⟩ := by
  have hpaths : (documentPaths otherNameTree (Path.ofString "docs")).map
      (Found.below (Path.ofString "docs"))
      = [⟨Path.ofString "docs/tenets/a.md", .tenet⟩,
        ⟨Path.ofString "docs/bindings/core/b.md", .binding⟩] := by
    decide +kernel
  unfold Settings.found
  rw [mem_discover_iff, ← List.mem_map, hpaths]
  simp

/-- The documents of the tree are checked, and the session ends with a verdict. -/
theorem exists_endsWith_otherNameTree :
    ∃ run v, IsChecked otherNameTree {} "1.0.0" run ∧ EndsWith otherNameTree false {} v := by
  refine exists_endsWith (by decide +kernel) ?_ false
  have hread : ∀ f ∈ [(⟨Path.ofString "docs/tenets/a.md", .tenet⟩ : Found),
      ⟨Path.ofString "docs/bindings/core/b.md", .binding⟩],
      (readSource otherNameTree f).toOption.isSome = true := by
    decide +kernel
  intro f hf
  have hsome := hread f (by simpa using mem_found_otherNameTree.mp hf)
  cases hsource : readSource otherNameTree f with
  | error e =>
    rw [hsource] at hsome
    cases hsome
  | ok s => exact ⟨s, rfl⟩

/-- The names in the tree are those of a file system. -/
theorem wellNamed_otherNameTree : otherNameTree.WellNamed := by
  apply Tree.wellNamed_ofFiles
  unfold IsFileName
  decide +kernel

/-- The binding of the tree names a tenet by the name of its file. -/
theorem referencesTenetFiles_otherNameTree :
    ∃ run v, IsChecked otherNameTree {} "1.0.0" run ∧ EndsWith otherNameTree false {} v
      ∧ ReferencesTenetFiles otherNameTree false {} run v := by
  obtain ⟨run, v, hrun, hends⟩ := exists_endsWith_otherNameTree
  exact ⟨run, v, hrun, hends, endsWith_referencesTenetFiles wellNamed_otherNameTree hends hrun⟩

/-- The id that the binding of the tree gives is the one that the tenet declares, and still the
binding is told that there is no such tenet. -/
theorem told_of_declared_otherNameTree :
    ∃ run v, IsChecked otherNameTree {} "1.0.0" run ∧ EndsWith otherNameTree false {} v
      ∧ ∃ t ∈ ({} : Settings).found otherNameTree, ∃ f ∈ ({} : Settings).found otherNameTree,
        t.kind = .tenet ∧ t.declaredId? otherNameTree = some "simplicity" ∧ f.kind = .binding
          ∧ (∃ entries, f.entries? otherNameTree = some entries
            ∧ entries.get? "derived_from" = some (.str "simplicity"))
          ∧ IsTold run f.path.toString .nonexistentReference := by
  obtain ⟨run, v, hrun, hends⟩ := exists_endsWith_otherNameTree
  have ht := mem_found_otherNameTree.mpr (.inl rfl)
  have hf := mem_found_otherNameTree.mpr (.inr rfl)
  have hdeclared : Found.declaredId? otherNameTree ⟨Path.ofString "docs/tenets/a.md", .tenet⟩
      = some "simplicity" := by
    decide +kernel
  -- The texts of the binding that the rules look at.
  have htexts : (Found.entries? otherNameTree
        ⟨Path.ofString "docs/bindings/core/b.md", .binding⟩).map
      (fun entries => (["derived_from", "id", "version"].map fun k =>
        (entries.get? k).bind Value.str?))
      = some [some "simplicity", some "b", some "1.0.0"] := by
    decide +kernel
  obtain ⟨entries, hentries, hfields⟩ := Option.map_eq_some_iff.mp htexts
  have htext : ∀ {k t}, (entries.get? k).bind Value.str? = some t →
      entries.get? k = some (.str t) := by
    intro k t hk
    obtain ⟨v, hv, hstr⟩ := Option.bind_eq_some_iff.mp hk
    rw [hv, Value.str?_eq_some_iff.mp hstr]
  simp only [List.map_cons, List.map_nil, List.cons.injEq, and_true] at hfields
  obtain ⟨hderived, hid, hversion⟩ := hfields
  have hshown : AreShown entries := by
    intro field hfield v hv
    have hfields : field = "id" ∨ field = "version" := by simpa using hfield
    rcases hfields with rfl | rfl
    · rw [htext hid] at hv
      exact Option.some.inj hv ▸ isShown_str _
    · rw [htext hversion] at hv
      exact Option.some.inj hv ▸ isShown_str _
  have hnone : ¬ IsTenetFile otherNameTree {} "simplicity" := by
    rintro ⟨t, ht, hkind, hstem⟩
    rcases mem_found_otherNameTree.mp ht with rfl | rfl
    · exact absurd hstem (by decide +kernel)
    · cases hkind
  refine ⟨run, v, hrun, hends, _, ht, _, hf, rfl, hdeclared, rfl,
    ⟨entries, hentries, htext hderived⟩, ?_⟩
  exact (hrun.told_iff wellNamed_otherNameTree hf rfl hentries (htext hderived) hshown).mpr hnone

end FrontMatter
