import FrontMatter.Proofs.Results
import FrontMatter.Proofs.Tables
import FrontMatter.Tree.Discovery
import Mathlib.Data.List.Forall2
import Mathlib.Data.List.Nodup

/-!
# `FrontMatter.Proofs.FoundDocuments` — every document is found once

The names in a directory of a file system are distinct, and no name holds a slash. In such a tree no
two of the documents that are found have the same path, and each of them is read into a source of
its own. All of them stand below the root of the tree: a docs root with an anchor has no documents.

## Contents

* `Tree.WellNamed`: the trees of a file system.
* `ofFiles_induction`, `at?_induction`: what holds of trees that are built and of their parts.
* `wellNamed_ofFiles`, `wellNamed_at?`: trees that are built, and what paths lead to, are such.
* `toString_join_inj`: a path below the root is told by its text.
* `nodup_discover`: the documents that are found have distinct paths.
* `map_readSource`, `mem_readSources_iff`: the sources are those of the documents.
-/

namespace FrontMatter

open Text (Path)

/-! ## Trees of a file system -/

/-- A name that can stand in a path. -/
def IsFileName (name : String) : Prop :=
  '/' ∉ name.toList

namespace Tree

/-- The trees of a file system: the names in a directory are distinct, and none holds a slash. -/
inductive WellNamed : Tree → Prop
  | file (bytes : List UInt8) : WellNamed (.file bytes)
  | directory {cs : Entries Tree} (distinct : cs.keys.Nodup)
      (names : ∀ e ∈ cs, IsFileName e.1) (below : ∀ e ∈ cs, WellNamed e.2) :
      WellNamed (.directory cs)

/-- The directory without anything in it. -/
theorem wellNamed_empty : WellNamed empty :=
  .directory List.nodup_nil (by simp) (by simp)

/-- The trees in a directory. -/
theorem WellNamed.below_of_mem {t : Tree} (h : t.WellNamed) {e : String × Tree}
    (he : e ∈ t.children) : IsFileName e.1 ∧ e.2.WellNamed := by
  cases h with
  | file bytes => cases he
  | directory _ hnames hbelow => exact ⟨hnames e he, hbelow e he⟩

/-- No two trees in a directory have one name. -/
theorem WellNamed.nodup_keys {t : Tree} (h : t.WellNamed) : t.children.keys.Nodup := by
  cases h with
  | file bytes => exact List.nodup_nil
  | directory hdistinct _ _ => exact hdistinct

/-- A directory into which a tree is put under a name is one of a file system, if the tree is. -/
theorem wellNamed_put {t u : Tree} {name : String} (ht : t.WellNamed) (hname : IsFileName name)
    (hu : u.WellNamed) : (directory (Table.put t.children name u)).WellNamed := by
  refine .directory (Table.nodup_keys_put ht.nodup_keys name u) ?_ ?_
  · intro e he
    rcases Table.mem_of_mem_put he with he | rfl
    · exact (ht.below_of_mem he).1
    · exact hname
  · intro e he
    rcases Table.mem_of_mem_put he with he | rfl
    · exact (ht.below_of_mem he).2
    · exact hu

section Kept

variable {Kept : Tree → Prop} {IsName : String → Prop}

/-- What holds of files and of the empty directory, of the parts of a tree of which it holds, and of
a directory into which a tree is put, holds of a tree with a file put into it. -/
theorem insert_induction (file : ∀ bytes, Kept (.file bytes)) (nothing : Kept empty)
    (below : ∀ t, Kept t → ∀ e ∈ t.children, Kept e.2)
    (put : ∀ t name u, Kept t → IsName name → Kept u →
      Kept (directory (Table.put t.children name u)))
    (bytes : Option (List UInt8)) {here : Option Tree} {names : List String}
    (hhere : ∀ t, here = some t → Kept t) (hnames : ∀ n ∈ names, IsName n) :
    Kept (insert bytes here names) := by
  induction names generalizing here with
  | nil =>
    unfold insert makeDirectory
    split
    · exact file _
    · split
      · next cs => exact hhere _ rfl
      · exact nothing
  | cons name rest ih =>
    unfold insert
    -- The entries that are there already; a file, or nothing at all, has none.
    have hentries : ∃ t : Tree, Kept t ∧ (here.map children).getD [] = t.children := by
      cases here with
      | none => exact ⟨empty, nothing, rfl⟩
      | some t => exact ⟨t, hhere t rfl, rfl⟩
    obtain ⟨t, ht, hchildren⟩ := hentries
    dsimp only
    rw [hchildren]
    have hinner : Kept (insert bytes (Table.get? t.children name) rest) := by
      refine ih ?_ fun n hn => hnames n (List.mem_cons_of_mem name hn)
      intro u hu
      exact below t ht _ (Table.mem_of_get? hu)
    exact put t name _ ht (hnames name List.mem_cons_self) hinner

/-- So it holds of a tree that is built from the paths of its files. -/
theorem ofFiles_induction (file : ∀ bytes, Kept (.file bytes)) (nothing : Kept empty)
    (below : ∀ t, Kept t → ∀ e ∈ t.children, Kept e.2)
    (put : ∀ t name u, Kept t → IsName name → Kept u →
      Kept (directory (Table.put t.children name u)))
    {files : List (Path × Option (List UInt8))} (h : ∀ f ∈ files, ∀ n ∈ f.1.parts, IsName n) :
    Kept (ofFiles files) := by
  unfold ofFiles
  -- For any tree to start from, as the files are put into it one after the other.
  have hgen : ∀ t : Tree, Kept t →
      Kept (files.foldl (fun t f => insert f.2 (some t) f.1.parts) t) := by
    induction files with
    | nil => intro t ht; exact ht
    | cons f rest ih =>
      intro t ht
      refine ih (fun g hg => h g (List.mem_cons_of_mem f hg)) _ ?_
      refine insert_induction file nothing below put f.2 ?_ (h f List.mem_cons_self)
      intro u hu
      exact Option.some.inj hu ▸ ht
  exact hgen empty nothing

/-- What holds of the parts of every tree of which it holds, holds of what names lead to. -/
theorem walk_induction (below : ∀ t, Kept t → ∀ e ∈ t.children, Kept e.2) {above : List Tree}
    {here t : Tree} {names : List String} (habove : ∀ a ∈ above, Kept a) (hhere : Kept here)
    (h : walk above here names = some t) : Kept t := by
  induction names generalizing above here with
  | nil =>
    obtain rfl := Option.some.inj h
    exact hhere
  | cons name rest ih =>
    unfold walk at h
    split at h
    · cases h
    · next cs =>
      split at h
      · -- Up to the directory above.
        split at h
        · cases h
        · next a as =>
          exact ih (fun b hb => habove b (List.mem_cons_of_mem a hb))
            (habove a List.mem_cons_self) h
      · split at h
        · cases h
        · next u hu =>
          refine ih ?_ (below _ hhere _ (Table.mem_of_get? hu)) h
          rintro b (_ | ⟨_, hb⟩)
          · exact hhere
          · exact habove b hb

/-- So it holds of what a path leads to. -/
theorem at?_induction (below : ∀ t, Kept t → ∀ e ∈ t.children, Kept e.2) {root t : Tree}
    (h : Kept root) {p : Path} (ht : root.at? p = some t) : Kept t := by
  unfold at? at ht
  split at ht
  · exact walk_induction below (by simp) h ht
  · cases ht

end Kept

/-- A tree that is built from the paths of its files is one of a file system. -/
theorem wellNamed_ofFiles {files : List (Path × Option (List UInt8))}
    (h : ∀ f ∈ files, ∀ n ∈ f.1.parts, IsFileName n) : (ofFiles files).WellNamed :=
  ofFiles_induction .file wellNamed_empty (fun _ ht _ he => (ht.below_of_mem he).2)
    (fun _ _ _ => wellNamed_put) h

/-- A path leads from a tree of a file system to such a tree. -/
theorem wellNamed_at? {root t : Tree} (h : root.WellNamed) {p : Path} (ht : root.at? p = some t) :
    t.WellNamed :=
  at?_induction (fun _ ht _ he => (ht.below_of_mem he).2) h ht

/-- What a path leads to, as the entries of a tree of a file system. -/
theorem exists_children_eq_entriesAt {root : Tree} (h : root.WellNamed) (p : Path) :
    ∃ t : Tree, t.WellNamed ∧ root.entriesAt p = t.children := by
  unfold entriesAt
  cases ht : root.at? p with
  | none => exact ⟨empty, wellNamed_empty, rfl⟩
  | some t => exact ⟨t, wellNamed_at? h ht, rfl⟩

end Tree

/-! ## Paths below a root -/

/-- A path that leads down from a root by names. -/
structure IsBelow (p : Path) : Prop where
  relative : p.anchor = ""
  ne_nil : p.parts ≠ []
  names : ∀ n ∈ p.parts, IsFileName n

/-- Parts after the same parts are told by the text of all of them. -/
theorem intercalate_append_cancel {ps qs rs : List (List Char)} (hqs : qs ≠ []) (hrs : rs ≠ [])
    (h : ['/'].intercalate (ps ++ qs) = ['/'].intercalate (ps ++ rs)) :
    ['/'].intercalate qs = ['/'].intercalate rs := by
  induction ps with
  | nil => exact h
  | cons p ps ih =>
    have hcons : ∀ ts : List (List Char), ts ≠ [] →
        ['/'].intercalate (p :: (ps ++ ts)) = p ++ '/' :: ['/'].intercalate (ps ++ ts) := by
      intro ts hts
      obtain ⟨first, rest, hrest⟩ := List.exists_cons_of_ne_nil
        (List.append_ne_nil_of_right_ne_nil ps hts)
      rw [hrest]
      simp [List.intercalate]
    rw [List.cons_append, List.cons_append, hcons qs hqs, hcons rs hrs] at h
    exact ih (List.tail_eq_of_cons_eq (List.append_cancel_left h))

/-- A path below a root is told by its text. -/
theorem toString_join_inj {root p q : Path} (hp : IsBelow p) (hq : IsBelow q)
    (h : (root.join p).toString = (root.join q).toString) : p = q := by
  have hwritten : ∀ r : Path, IsBelow r → (root.join r).toString.toList
      = root.anchor.toList
        ++ ['/'].intercalate (root.parts.map String.toList ++ r.parts.map String.toList) := by
    intro r hr
    unfold Path.toString Path.join
    rw [if_neg (by simp [hr.ne_nil])]
    simp [String.toList_intercalate]
  have hne : ∀ r : Path, IsBelow r → r.parts.map String.toList ≠ [] := by
    intro r hr
    simpa using hr.ne_nil
  have hnames : ∀ r : Path, IsBelow r → ∀ l ∈ r.parts.map String.toList, '/' ∉ l := by
    intro r hr l hl
    obtain ⟨n, hn, rfl⟩ := List.mem_map.mp hl
    exact hr.names n hn
  have hlists := congrArg String.toList h
  rw [hwritten p hp, hwritten q hq] at hlists
  have htexts := intercalate_append_cancel (hne p hp) (hne q hq) (List.append_cancel_left hlists)
  -- No name holds a slash, so the text splits into the names again.
  have hsplit := congrArg (List.splitOn '/') htexts
  rw [List.splitOn_intercalate '/' (hnames p hp) (hne p hp),
    List.splitOn_intercalate '/' (hnames q hq) (hne q hq)] at hsplit
  have hparts : p.parts = q.parts :=
    List.map_injective_iff.mpr (fun _ _ => String.toList_inj.mp) hsplit
  cases p
  cases q
  rw [Text.Path.mk.injEq]
  exact ⟨hparts, hp.relative.trans hq.relative.symm⟩

/-! ## The documents that are found -/

section Found

variable {tree : Tree} (htree : tree.WellNamed) (root : Path)

include htree

/-- The documents in a directory are entries of it. -/
theorem exists_of_mem_documentsIn {dir p : Path} (h : p ∈ documentsIn tree root dir) :
    ∃ name, IsFileName name ∧ p = dir.child name := by
  obtain ⟨name, hname, rfl⟩ := List.mem_map.mp h
  obtain ⟨t, ht, hentries⟩ := Tree.exists_children_eq_entriesAt htree (root.join dir)
  have hkey : name ∈ (tree.entriesAt (root.join dir)).keys := List.mem_of_mem_filter hname
  rw [hentries] at hkey
  obtain ⟨e, he, rfl⟩ := List.mem_map.mp hkey
  exact ⟨e.1, (ht.below_of_mem he).1, rfl⟩

/-- No document in a directory is found twice. -/
theorem nodup_documentsIn (dir : Path) : (documentsIn tree root dir).Nodup := by
  obtain ⟨t, ht, hentries⟩ := Tree.exists_children_eq_entriesAt htree (root.join dir)
  unfold documentsIn
  rw [hentries]
  refine (ht.nodup_keys.filter _).map fun a b hab => ?_
  simpa [Path.child] using hab

/-- The categories are directories below that of all categories. -/
theorem exists_of_mem_categoryPaths {dir : Path} (h : dir ∈ categoryPaths tree root) :
    ∃ name, IsFileName name ∧ dir = { parts := ["bindings", "categories", name] } := by
  obtain ⟨name, hname, rfl⟩ := List.mem_map.mp h
  obtain ⟨t, ht, hentries⟩ := Tree.exists_children_eq_entriesAt htree
    (root.join { parts := ["bindings", "categories"] })
  obtain ⟨e, he, rfl⟩ := List.mem_map.mp hname
  have hmem := List.mem_of_mem_filter he
  rw [hentries] at hmem
  exact ⟨e.1, (ht.below_of_mem hmem).1, rfl⟩

/-- No category is found twice. -/
theorem nodup_categoryPaths : (categoryPaths tree root).Nodup := by
  obtain ⟨t, ht, hentries⟩ := Tree.exists_children_eq_entriesAt htree
    (root.join { parts := ["bindings", "categories"] })
  unfold categoryPaths
  dsimp only
  rw [hentries]
  have hkeys : (Table.keys (t.children.filter fun e => e.2.isDirectory)).Nodup :=
    ht.nodup_keys.sublist (List.filter_sublist.map Prod.fst)
  refine hkeys.map fun a b hab => ?_
  simpa [Path.child] using hab

/-- A document is a file in one of the three places: tenets, core bindings, or a category. -/
theorem parts_of_mem_documentPaths {p : Path} (h : p ∈ documentPaths tree root) :
    ∃ name, IsFileName name ∧ (p = { parts := ["tenets", name] }
      ∨ p = { parts := ["bindings", "core", name] }
      ∨ ∃ category, IsFileName category
        ∧ p = { parts := ["bindings", "categories", category, name] }) := by
  unfold documentPaths at h
  rw [List.mem_append, List.mem_append] at h
  rcases h with (h | h) | h
  · obtain ⟨name, hname, rfl⟩ := exists_of_mem_documentsIn htree root h
    exact ⟨name, hname, .inl rfl⟩
  · obtain ⟨name, hname, rfl⟩ := exists_of_mem_documentsIn htree root h
    exact ⟨name, hname, .inr (.inl rfl)⟩
  · obtain ⟨dir, hdir, hmem⟩ := List.mem_flatMap.mp h
    obtain ⟨category, hcategory, rfl⟩ := exists_of_mem_categoryPaths htree root hdir
    obtain ⟨name, hname, rfl⟩ := exists_of_mem_documentsIn htree root hmem
    exact ⟨name, hname, .inr (.inr ⟨category, hcategory, rfl⟩)⟩

/-- Every document is below the root. -/
theorem isBelow_of_mem_documentPaths {p : Path} (h : p ∈ documentPaths tree root) : IsBelow p := by
  have hplain : IsFileName "tenets" ∧ IsFileName "bindings" ∧ IsFileName "core"
      ∧ IsFileName "categories" := by
    unfold IsFileName
    decide
  obtain ⟨htenets, hbindings, hcore, hcategories⟩ := hplain
  obtain ⟨name, hname, rfl | rfl | ⟨category, hcategory, rfl⟩⟩ :=
    parts_of_mem_documentPaths htree root h
  · exact ⟨rfl, by simp, by simp [htenets, hname]⟩
  · exact ⟨rfl, by simp, by simp [hbindings, hcore, hname]⟩
  · exact ⟨rfl, by simp, by simp [hbindings, hcategories, hcategory, hname]⟩

/-- No document is found twice. -/
theorem nodup_documentPaths : (documentPaths tree root).Nodup := by
  -- The directory of a document is told by its path, so no two directories share one.
  have hdirs : ∀ {dir other p : Path}, p ∈ documentsIn tree root dir →
      p ∈ documentsIn tree root other → dir.parts = other.parts := by
    intro dir other p hdir hother
    obtain ⟨name, -, rfl⟩ := exists_of_mem_documentsIn htree root hdir
    obtain ⟨name', -, hsame⟩ := exists_of_mem_documentsIn htree root hother
    exact (List.append_inj' (congrArg Path.parts hsame) rfl).1
  unfold documentPaths
  rw [List.nodup_append, List.nodup_append]
  refine ⟨⟨nodup_documentsIn htree root _, nodup_documentsIn htree root _, ?_⟩, ?_, ?_⟩
  · rintro p hp q hq rfl
    exact absurd (hdirs hp hq) (by simp)
  · rw [List.nodup_flatMap]
    refine ⟨fun dir _ => nodup_documentsIn htree root dir, ?_⟩
    refine List.Pairwise.imp_of_mem ?_ (nodup_categoryPaths htree root)
    intro dir other hdir hother hne p hp hq
    obtain ⟨name, -, rfl⟩ := exists_of_mem_categoryPaths htree root hdir
    obtain ⟨name', -, rfl⟩ := exists_of_mem_categoryPaths htree root hother
    exact hne (congrArg (fun parts => ({ parts := parts } : Path)) (hdirs hp hq))
  · rintro p hp q hq rfl
    obtain ⟨dir, hdir, hmem⟩ := List.mem_flatMap.mp hq
    obtain ⟨name, -, rfl⟩ := exists_of_mem_categoryPaths htree root hdir
    rcases List.mem_append.mp hp with hp | hp
    · exact absurd (hdirs hp hmem) (by simp)
    · exact absurd (hdirs hp hmem) (by simp)

omit htree in
/-- The documents that are found are those at the paths of documents. -/
theorem mem_discover_iff {f : Found} :
    f ∈ discover tree root ↔ ∃ p ∈ documentPaths tree root, Found.below root p = f := by
  unfold discover
  rw [List.mem_mergeSort, List.mem_map]

/-- The documents that are found have distinct paths. -/
theorem nodup_discover : ((discover tree root).map fun f => f.path.toString).Nodup := by
  have hperm : (discover tree root).Perm ((documentPaths tree root).map (Found.below root)) :=
    List.mergeSort_perm _ _
  rw [(hperm.map _).nodup_iff, List.map_map]
  refine List.Nodup.map_on ?_ (nodup_documentPaths htree root)
  intro p hp q hq hsame
  exact toString_join_inj (isBelow_of_mem_documentPaths htree root hp)
    (isBelow_of_mem_documentPaths htree root hq) hsame

end Found

/-! ## Reading -/

/-- The source of a document has its path and its kind. -/
theorem of_readSource {tree : Tree} {f : Found} {s : Source} (h : readSource tree f = .ok s) :
    s.path = f.path.toString ∧ s.kind = f.kind.word ∧ s.lineOffset = 1 := by
  unfold readSource at h
  split at h
  · cases h
    exact ⟨rfl, rfl, rfl⟩
  · cases h

/-- The sources that are read are those of the documents, one after the other. -/
theorem map_readSource {tree : Tree} {found : List Found} {sources : List Source}
    (h : readSources tree found = .ok sources) :
    found.map (readSource tree) = sources.map .ok
      ∧ sources.map Source.path = found.map fun f => f.path.toString := by
  have hmap : found.map (readSource tree) = sources.map .ok := mapM_eq_ok_iff.mp h
  refine ⟨hmap, ?_⟩
  -- Each source has the path of the document that it is read from.
  rw [← List.forall₂_eq_eq_eq, List.forall₂_map_left_iff, List.forall₂_map_right_iff] at hmap
  rw [← List.forall₂_eq_eq_eq, List.forall₂_map_left_iff, List.forall₂_map_right_iff]
  exact hmap.flip.imp fun s f hs => (of_readSource hs).1

/-- Documents are read where each of them is. -/
theorem exists_readSources {tree : Tree} {found : List Found}
    (h : ∀ f ∈ found, ∃ s, readSource tree f = .ok s) :
    ∃ sources, readSources tree found = .ok sources := by
  cases hsources : readSources tree found with
  | ok sources => exact ⟨sources, rfl⟩
  | error fault =>
    obtain ⟨before, f, after, rfl, -, hf⟩ := mapM_eq_error_iff.mp hsources
    obtain ⟨s, hs⟩ := h f (by simp)
    rw [hf] at hs
    cases hs

/-- A source is one of those that are read exactly when a document has been read into it. -/
theorem mem_readSources_iff {tree : Tree} {found : List Found} {sources : List Source}
    (h : readSources tree found = .ok sources) {s : Source} :
    s ∈ sources ↔ ∃ f ∈ found, readSource tree f = .ok s := by
  have hmem : s ∈ sources ↔ (.ok s : Except ReadFault Source) ∈ sources.map .ok := by simp
  rw [hmem, ← (map_readSource h).1, List.mem_map]

/-- Every document is read into a source. -/
theorem exists_source_of_mem {tree : Tree} {found : List Found} {sources : List Source}
    (h : readSources tree found = .ok sources) {f : Found} (hf : f ∈ found) :
    ∃ s ∈ sources, readSource tree f = .ok s := by
  have hmem : readSource tree f ∈ sources.map .ok := by
    rw [← (map_readSource h).1]
    exact List.mem_map_of_mem hf
  obtain ⟨s, hs, hread⟩ := List.mem_map.mp hmem
  exact ⟨s, hs, hread.symm⟩

end FrontMatter
